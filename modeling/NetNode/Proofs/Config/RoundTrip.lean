import Mathlib
import NetNode.Config.Load
import NetNode.Config.Encode
import NetNode.Proofs.Json.ReadBack
import NetNode.Proofs.Files.ReadWrite
import NetNode.Cli.Program

/-!
# Configurations round trip through their text

`config_round_trip`: a configuration that passes the checks and whose values fit their types
(`Config.Fits`) is loaded back from the compact text and from the indented file text the writer
gives for it; the default configuration, whatever the machine's processor count, is loaded back
from any file it is written to; and every configuration loaded from any text passes the checks
and fits, so it round-trips too. The processor count only sets the default number of UDP
workers, and `Processors` carries the two facts the default needs: at least one, and a word.

Both directions are built field by field. Writing then reading goes through `decodes_fields`:
each field's value is written so that the field's own reader gives back the change that sets it.
Reading goes through `readRecord_keeps`: each field's change keeps `Fits`, because a count is
read only within its limit and an address only when it parses.

Version 6 addresses carry no flow label here, so the condition that it is zero is empty.
-/

namespace NetNode

open NetNode.Json NetNode.Address

/-! ## Configurations the writer can express -/

/-- The options of a TCP node that its text can hold: an address that fits, 64-bit counts and a
32-bit backlog. -/
structure TcpConfig.Fits (c : TcpConfig) : Prop where
  address : c.address.Fits
  maxConcurrentConnections : c.maxConcurrentConnections ≤ wordMax
  queueCapacity : c.queueCapacity ≤ wordMax
  backlog : c.backlog ≤ halfWordMax
  stopTimeoutMs : c.stopTimeoutMs ≤ wordMax

instance : DecidablePred TcpConfig.Fits := fun c =>
  decidable_of_iff (c.address.Fits ∧ c.maxConcurrentConnections ≤ wordMax ∧
      c.queueCapacity ≤ wordMax ∧ c.backlog ≤ halfWordMax ∧ c.stopTimeoutMs ≤ wordMax)
    ⟨fun ⟨ha, hm, hq, hb, hs⟩ => ⟨ha, hm, hq, hb, hs⟩,
     fun ⟨ha, hm, hq, hb, hs⟩ => ⟨ha, hm, hq, hb, hs⟩⟩

/-- The options of a UDP node that its text can hold: an address that fits and 64-bit counts. -/
structure UdpConfig.Fits (c : UdpConfig) : Prop where
  address : c.address.Fits
  workers : c.workers ≤ wordMax
  maxConcurrency : c.maxConcurrency ≤ wordMax
  queueCapacity : c.queueCapacity ≤ wordMax
  receiveBufferSize : c.receiveBufferSize ≤ wordMax
  bufferPoolCapacity : c.bufferPoolCapacity ≤ wordMax
  stopTimeoutMs : c.stopTimeoutMs ≤ wordMax

instance : DecidablePred UdpConfig.Fits := fun c =>
  decidable_of_iff (c.address.Fits ∧ c.workers ≤ wordMax ∧ c.maxConcurrency ≤ wordMax ∧
      c.queueCapacity ≤ wordMax ∧ c.receiveBufferSize ≤ wordMax ∧
      c.bufferPoolCapacity ≤ wordMax ∧ c.stopTimeoutMs ≤ wordMax)
    ⟨fun ⟨ha, hw, hm, hq, hr, hb, hs⟩ => ⟨ha, hw, hm, hq, hr, hb, hs⟩,
     fun ⟨ha, hw, hm, hq, hr, hb, hs⟩ => ⟨ha, hw, hm, hq, hr, hb, hs⟩⟩

/-- A configuration whose nodes' options fit. -/
structure Config.Fits (c : Config) : Prop where
  tcp : ∀ t ∈ c.tcp, t.Fits
  udp : ∀ u ∈ c.udp, u.Fits

instance : DecidablePred Config.Fits := fun c =>
  decidable_of_iff ((∀ t ∈ c.tcp, t.Fits) ∧ ∀ u ∈ c.udp, u.Fits)
    ⟨fun ⟨ht, hu⟩ => ⟨ht, hu⟩, fun ⟨ht, hu⟩ => ⟨ht, hu⟩⟩

/-- A UDP node with every option at its default fits when its address does: its worker count is
the processor count, and the processor count is a word. -/
theorem UdpConfig.new_fits (cpus : Processors) {a : SocketAddress} (ha : a.Fits) :
    (UdpConfig.new cpus a).Fits := by
  refine ⟨ha, cpus.fits, ?_, ?_, ?_, ?_, ?_⟩ <;> simp [UdpConfig.new, wordMax, maxDatagramSize]

/-! ## Writing a configuration and reading it back -/

variable {σ : Type}

/-- An address that fits is read back as the change that sets it. -/
theorem decodes_textAddress {set : SocketAddress → σ → σ} {a : SocketAddress} (h : a.Fits) :
    Decodes (textAddress set) (.str a.text) (set a) :=
  (decodes_address h).map set

/-- A count within the field's limit is read back as the change that sets it. -/
theorem decodes_textCount {expected : String} {limit n : Nat} {set : Nat → σ → σ}
    (hn : n ≤ limit) (hlimit : limit ≤ u64Max) :
    Decodes (textCount expected limit set) (.nat n) (set n) :=
  (decodes_unsigned hn hlimit).map set

/-- A TCP node's options that fit are read back from either layout of their value. -/
theorem TcpConfig.decodes_toValue {c : TcpConfig} (h : c.Fits) :
    Decodes TcpConfig.readText c.toValue c := by
  have hd := decodes_fields "TcpNodeConfig" TcpConfig.textFields (.new default)
    [(.str c.address.text, fun x => { x with address := c.address }),
     (.nat c.maxConcurrentConnections,
       fun x => { x with maxConcurrentConnections := c.maxConcurrentConnections }),
     (.nat c.queueCapacity, fun x => { x with queueCapacity := c.queueCapacity }),
     (.nat c.backlog, fun x => { x with backlog := c.backlog }),
     (.nat c.stopTimeoutMs, fun x => { x with stopTimeoutMs := c.stopTimeoutMs })]
    (by simp [TcpConfig.textFields]) rfl (by decide) ?_
  · exact hd
  · intro m hm
    simp only [TcpConfig.textFields, List.zip_cons_cons, List.zip_nil_right, List.mem_cons,
      List.not_mem_nil, or_false] at hm
    -- each member reads back through the reader of its own field
    rcases hm with rfl | rfl | rfl | rfl | rfl <;> dsimp only
    · exact decodes_textAddress h.address
    · exact decodes_textCount h.maxConcurrentConnections le_rfl
    · exact decodes_textCount h.queueCapacity le_rfl
    · exact decodes_textCount h.backlog (by decide)
    · exact decodes_textCount h.stopTimeoutMs le_rfl

/-- A UDP node's options that fit are read back from either layout of their value, whatever
the processor count that gives the default worker count. -/
theorem UdpConfig.decodes_toValue (cpus : Processors) {c : UdpConfig} (h : c.Fits) :
    Decodes (UdpConfig.readText cpus) c.toValue c := by
  have hd := decodes_fields "UdpNodeConfig" UdpConfig.textFields (.new cpus default)
    [(.str c.address.text, fun x => { x with address := c.address }),
     (.nat c.workers, fun x => { x with workers := c.workers }),
     (.nat c.maxConcurrency, fun x => { x with maxConcurrency := c.maxConcurrency }),
     (.nat c.queueCapacity, fun x => { x with queueCapacity := c.queueCapacity }),
     (.nat c.receiveBufferSize, fun x => { x with receiveBufferSize := c.receiveBufferSize }),
     (.nat c.bufferPoolCapacity, fun x => { x with bufferPoolCapacity := c.bufferPoolCapacity }),
     (.nat c.stopTimeoutMs, fun x => { x with stopTimeoutMs := c.stopTimeoutMs })]
    (by simp [UdpConfig.textFields]) rfl (by decide) ?_
  · exact hd
  · intro m hm
    simp only [UdpConfig.textFields, List.zip_cons_cons, List.zip_nil_right, List.mem_cons,
      List.not_mem_nil, or_false] at hm
    rcases hm with rfl | rfl | rfl | rfl | rfl | rfl | rfl <;> dsimp only
    · exact decodes_textAddress h.address
    · exact decodes_textCount h.workers le_rfl
    · exact decodes_textCount h.maxConcurrency le_rfl
    · exact decodes_textCount h.queueCapacity le_rfl
    · exact decodes_textCount h.receiveBufferSize le_rfl
    · exact decodes_textCount h.bufferPoolCapacity le_rfl
    · exact decodes_textCount h.stopTimeoutMs le_rfl

/-- Logging options, whatever their texts, are read back from either layout of their value. -/
theorem LogConfig.decodes_toValue (c : LogConfig) : Decodes LogConfig.readText c.toValue c := by
  have hd := decodes_fields "LogConfig" LogConfig.textFields {}
    [(.str c.level, fun x => { x with level := c.level }),
     (.str c.format, fun x => { x with format := c.format }),
     (.bool c.timestamps, fun x => { x with timestamps := c.timestamps }),
     (.bool c.target, fun x => { x with target := c.target })]
    (by simp [LogConfig.textFields]) rfl (by decide) ?_
  · exact hd
  · intro m hm
    simp only [LogConfig.textFields, List.zip_cons_cons, List.zip_nil_right, List.mem_cons,
      List.not_mem_nil, or_false] at hm
    rcases hm with rfl | rfl | rfl | rfl <;> dsimp only
    · exact (decodes_text "a string" c.level).map fun s (x : LogConfig) => { x with level := s }
    · exact (decodes_text "a string" c.format).map fun s (x : LogConfig) => { x with format := s }
    · exact (decodes_boolean c.timestamps).map fun b (x : LogConfig) => { x with timestamps := b }
    · exact (decodes_boolean c.target).map fun b (x : LogConfig) => { x with target := b }

/-- A node that may be absent is written as its object or as `null`, and read back. -/
theorem decodes_optional {τ : Type} {inner : TextReader τ} {toValue : τ → Value} (o : Option τ)
    (h : ∀ t ∈ o, Decodes inner (toValue t) t)
    (hobj : ∀ t, ∃ fs, fs ≠ [] ∧ toValue t = .obj fs) :
    Decodes (readOptional inner) ((o.map toValue).getD .null) o := by
  cases o with
  | none => exact decodes_null inner
  | some t =>
    obtain ⟨fs, hne, hfs⟩ := hobj t
    have ht := h t rfl
    rw [Option.map_some, Option.getD_some, hfs]
    rw [hfs] at ht
    exact ht.optional hne

/-- A configuration that fits is read back from either layout of its value. -/
theorem Config.decodes_toValue (cpus : Processors) {c : Config} (h : c.Fits) :
    Decodes (readRecord "Config" (Config.textFields cpus) {}) c.toValue c := by
  have hd := decodes_fields "Config" (Config.textFields cpus) {}
    [((c.tcp.map TcpConfig.toValue).getD .null, fun x => { x with tcp := c.tcp }),
     ((c.udp.map UdpConfig.toValue).getD .null, fun x => { x with udp := c.udp }),
     (c.log.toValue, fun x => { x with log := c.log })]
    (by simp [Config.textFields]) rfl (by simp only [Config.textFields, List.map_cons, List.map_nil]; decide) ?_
  · exact hd
  · intro m hm
    simp only [Config.textFields, List.zip_cons_cons, List.zip_nil_right, List.mem_cons,
      List.not_mem_nil, or_false] at hm
    rcases hm with rfl | rfl | rfl <;> dsimp only
    · exact (decodes_optional c.tcp (fun t ht => TcpConfig.decodes_toValue (h.tcp t ht))
        fun t => ⟨_, List.cons_ne_nil _ _, rfl⟩).map fun t (x : Config) => { x with tcp := t }
    · exact (decodes_optional c.udp (fun u hu => UdpConfig.decodes_toValue cpus (h.udp u hu))
        fun u => ⟨_, List.cons_ne_nil _ _, rfl⟩).map fun u (x : Config) => { x with udp := u }
    · exact (LogConfig.decodes_toValue c.log).map fun l (x : Config) => { x with log := l }

/-! ## What reading gives -/

/-- An address field keeps what setting any address that fits keeps. -/
theorem textAddress_keeps (name : String) (required : Bool) {P : σ → Prop}
    {set : SocketAddress → σ → σ} (hset : ∀ a x, a.Fits → P x → P (set a x)) :
    (⟨name, required, textAddress set⟩ : TextField σ).Keeps P := by
  intro c δ c' h x hx
  obtain ⟨⟨a, c1⟩, ha, hδ⟩ := map_ok h
  cases hδ
  exact hset a x (readAddress_fits ha) hx

/-- A count field keeps what setting any count within its limit keeps. -/
theorem textCount_keeps (name : String) (required : Bool) {P : σ → Prop} {expected : String}
    {limit : Nat} {set : Nat → σ → σ} (hset : ∀ n x, n ≤ limit → P x → P (set n x)) :
    (⟨name, required, textCount expected limit set⟩ : TextField σ).Keeps P := by
  intro c δ c' h x hx
  obtain ⟨⟨n, c1⟩, hn, hδ⟩ := map_ok h
  cases hδ
  exact hset n x (readUnsigned_le hn) hx

/-- Every TCP node's options read from text fit. -/
theorem TcpConfig.readText_fits {c c' : Cursor} {t : TcpConfig}
    (h : TcpConfig.readText c = .ok (t, c')) : t.Fits := by
  refine readRecord_keeps TcpConfig.Fits _ _ ?_ (by decide) h
  intro f hf
  simp only [TcpConfig.textFields, List.mem_cons, List.not_mem_nil, or_false] at hf
  rcases hf with rfl | rfl | rfl | rfl | rfl
  · exact textAddress_keeps _ _ fun a x ha hx => { hx with address := ha }
  · exact textCount_keeps _ _ fun n x hn hx => { hx with maxConcurrentConnections := hn }
  · exact textCount_keeps _ _ fun n x hn hx => { hx with queueCapacity := hn }
  · exact textCount_keeps _ _ fun n x hn hx => { hx with backlog := hn }
  · exact textCount_keeps _ _ fun n x hn hx => { hx with stopTimeoutMs := hn }

/-- Every UDP node's options read from text fit. -/
theorem UdpConfig.readText_fits {cpus : Processors} {c c' : Cursor} {u : UdpConfig}
    (h : UdpConfig.readText cpus c = .ok (u, c')) : u.Fits := by
  refine readRecord_keeps UdpConfig.Fits _ _ ?_ (UdpConfig.new_fits cpus (by decide)) h
  intro f hf
  simp only [UdpConfig.textFields, List.mem_cons, List.not_mem_nil, or_false] at hf
  rcases hf with rfl | rfl | rfl | rfl | rfl | rfl | rfl
  · exact textAddress_keeps _ _ fun a x ha hx => { hx with address := ha }
  · exact textCount_keeps _ _ fun n x hn hx => { hx with workers := hn }
  · exact textCount_keeps _ _ fun n x hn hx => { hx with maxConcurrency := hn }
  · exact textCount_keeps _ _ fun n x hn hx => { hx with queueCapacity := hn }
  · exact textCount_keeps _ _ fun n x hn hx => { hx with receiveBufferSize := hn }
  · exact textCount_keeps _ _ fun n x hn hx => { hx with bufferPoolCapacity := hn }
  · exact textCount_keeps _ _ fun n x hn hx => { hx with stopTimeoutMs := hn }

/-- A node read as an optional value fits when every value its reader gives fits. -/
theorem readOptional_fits {τ : Type} {inner : TextReader τ} {Q : τ → Prop}
    (hinner : ∀ c t c', inner c = .ok (t, c') → Q t) {c c' : Cursor} {o : Option τ}
    (h : readOptional inner c = .ok (o, c')) : ∀ t ∈ o, Q t := by
  intro t ht
  rw [Option.mem_def] at ht
  subst ht
  obtain ⟨c0, c1, hc⟩ := readOptional_some h
  exact hinner c0 t c1 hc

/-- Every configuration read from text fits. -/
theorem Config.readText_fits {cpus : Processors} {c c' : Cursor} {cfg : Config}
    (h : readRecord "Config" (Config.textFields cpus) {} c = .ok (cfg, c')) : cfg.Fits := by
  refine readRecord_keeps Config.Fits _ _ ?_ ⟨by simp, by simp⟩ h
  intro f hf
  simp only [Config.textFields, List.mem_cons, List.not_mem_nil, or_false] at hf
  rcases hf with rfl | rfl | rfl
  · intro c δ c' hread x hx
    obtain ⟨⟨t, c1⟩, ht, hδ⟩ := map_ok hread
    cases hδ
    exact { hx with tcp := readOptional_fits (fun _ _ _ => TcpConfig.readText_fits) ht }
  · intro c δ c' hread x hx
    obtain ⟨⟨u, c1⟩, hu, hδ⟩ := map_ok hread
    cases hδ
    exact { hx with udp := readOptional_fits (fun _ _ _ => UdpConfig.readText_fits) hu }
  · intro c δ c' hread x hx
    obtain ⟨⟨l, c1⟩, -, hδ⟩ := map_ok hread
    cases hδ
    exact ⟨hx.tcp, hx.udp⟩

/-! ## The default configuration -/

/-- A UDP node with every option at its default passes the checks: it has one worker per
processor, and there is at least one processor. -/
theorem UdpConfig.new_validate (cpus : Processors) (a : SocketAddress) :
    (UdpConfig.new cpus a).validate = .ok () := by
  have hpos := cpus.pos
  simp [UdpConfig.validate, UdpConfig.limits, UdpConfig.new, checkLimits, Limit.check,
    Limit.holds, hpos, maxPermits, maxDatagramSize, bind, Except.bind]

/-- The default configuration passes the checks, whatever the processor count. -/
theorem Config.standard_validate (cpus : Processors) :
    (Config.standard cpus).validate = .ok () := by
  have hudp := UdpConfig.new_validate cpus (.loopback 7001)
  simp only [Config.standard, Config.validate, Option.isNone_some, Bool.and_false,
    Bool.false_eq_true, if_false, hudp]
  rfl

/-- The values of the default configuration fit their types: the processor count is a word. -/
theorem Config.standard_fits (cpus : Processors) : (Config.standard cpus).Fits where
  tcp t ht := by
    cases ht
    decide
  udp u hu := by
    cases hu
    exact UdpConfig.new_fits cpus (by decide)

/-! ## Loading -/

/-- A text that the configuration reader reads whole, with nothing after it, is parsed. -/
theorem Config.parseText_of_reads {cpus : Processors} {s : String} {c : Config}
    (h : Reads (readRecord "Config" (Config.textFields cpus) {}) s.toList c) :
    Config.parseText cpus s = .ok c := by
  obtain ⟨j, hj⟩ := h [] [] 0 (by simp) (by simp [Ends])
  simp only [List.nil_append, List.append_nil] at hj
  simp [Config.parseText, Cursor.start, hj, bind, Except.bind, Cursor.skipBlank, Cursor.skipChars,
    Cursor.peek?, pure, Except.pure, Except.mapError]

/-- Loading gives what parsing gives, once it passes the checks. -/
theorem Config.load_eq {cpus : Processors} {s : String} {c : Config}
    (hparse : Config.parseText cpus s = .ok c) (hvalid : c.validate = .ok ()) :
    Config.load cpus s = .ok c := by
  simp [Config.load, hparse, hvalid, Except.mapError, bind, Except.bind, pure, Except.pure]

/-- What loading gives was parsed from the text and passes the checks. -/
theorem Config.parseText_of_load {cpus : Processors} {s : String} {c : Config}
    (h : Config.load cpus s = .ok c) : Config.parseText cpus s = .ok c ∧ c.validate = .ok () := by
  obtain ⟨c1, hparse, hrest⟩ := bind_ok h
  obtain ⟨u, hvalid, hc⟩ := bind_ok hrest
  cases hc
  cases hparse' : Config.parseText cpus s with
  | error e => simp [hparse', Except.mapError] at hparse
  | ok c2 =>
    simp only [hparse', Except.mapError, Except.ok.injEq] at hparse
    subst hparse
    exact ⟨rfl, hvalid⟩

/-- Every configuration parsed from text fits. -/
theorem Config.parseText_fits {cpus : Processors} {s : String} {c : Config}
    (h : Config.parseText cpus s = .ok c) : c.Fits := by
  unfold Config.parseText at h
  cases hrun : (readRecord "Config" (Config.textFields cpus) {} (Cursor.start s)) with
  | error e => simp [hrun, bind, Except.bind, Except.mapError] at h
  | ok r =>
    obtain ⟨cfg, c'⟩ := r
    have hfits := Config.readText_fits hrun
    simp only [hrun, bind, Except.bind, Except.mapError] at h
    -- the outer match renders a failure; the inner one fails on trailing characters
    split at h
    · cases h
    · rename_i hinner
      cases h
      split at hinner
      · cases hinner
        exact hfits
      · cases hinner

/-- A configuration that passes the checks and fits is loaded back from both texts the writer
gives for it. -/
theorem Config.load_toValue (cpus : Processors) {c : Config} (hvalid : c.validate = .ok ())
    (hfits : c.Fits) :
    Config.load cpus c.toValue.compact = .ok c ∧ Config.load cpus c.fileText = .ok c := by
  have hd := Config.decodes_toValue cpus hfits
  exact ⟨Config.load_eq (Config.parseText_of_reads hd.1) hvalid,
    Config.load_eq (Config.parseText_of_reads (hd.2 0)) hvalid⟩

/-- A configuration written to a file that the write creates or replaces is loaded back from
that file. -/
theorem Config.loadFile_write (cpus : Processors) {fs fs' : Files.Tree} {path : String}
    {c : Config} (hvalid : c.validate = .ok ()) (hfits : c.Fits)
    (hw : fs.write path c.fileText.toUTF8 = .ok fs') : Config.loadFile cpus fs' path = .ok c := by
  obtain ⟨hexists, hread⟩ := Files.Tree.read_write hw
  have hparse : Config.parseText cpus c.fileText = .ok c :=
    Config.parseText_of_reads ((Config.decodes_toValue cpus hfits).2 0)
  simp only [Config.loadFile, hexists, hread, Files.fromUTF8?_toUTF8, hparse, hvalid,
    Bool.not_true, Bool.false_eq_true, if_false, bind, Except.bind, Except.mapError, pure,
    Except.pure]

/-- When the program is asked to write the default configuration and succeeds, loading the file
it wrote gives the default configuration. -/
theorem execute_generate_loads {inv : Cli.Invocation} {args : Cli.Args}
    (hargs : Cli.Args.parse {} inv.args = .run args) (hgen : args.generate = true)
    (hexit : (Cli.execute inv).exitCode = some 0) :
    Config.loadFile inv.processors (Cli.execute inv).files args.configPath =
      .ok (Config.standard inv.processors) := by
  unfold Cli.execute at hexit ⊢
  simp only [hargs, hgen, if_true] at hexit ⊢
  split at hexit
  · rename_i fs hw
    exact Config.loadFile_write _ (Config.standard_validate _) (Config.standard_fits _) hw
  · cases hexit

/-- Writing a configuration and loading it back is the identity: for every configuration that
passes the checks and fits, from the compact and the indented text; for the default
configuration, from any file it is written to; and for every configuration loaded from any
text. -/
theorem config_round_trip (cpus : Processors) :
    (∀ c : Config, c.validate = .ok () → c.Fits →
      Config.load cpus c.toValue.compact = .ok c ∧ Config.load cpus c.fileText = .ok c) ∧
    (∀ (fs fs' : Files.Tree) (path : String),
      fs.write path (Config.standard cpus).fileText.toUTF8 = .ok fs' →
      Config.loadFile cpus fs' path = .ok (Config.standard cpus)) ∧
    (∀ s c, Config.load cpus s = .ok c →
      Config.load cpus c.toValue.compact = .ok c ∧ Config.load cpus c.fileText = .ok c) := by
  refine ⟨fun c hvalid hfits => Config.load_toValue cpus hvalid hfits, ?_, ?_⟩
  · -- the default configuration passes the checks, and its nodes are on addresses that fit
    intro fs fs' path hw
    exact Config.loadFile_write cpus (Config.standard_validate cpus) (Config.standard_fits cpus) hw
  · -- what loading gives passes the checks, and every value the reader gives fits
    intro s c hload
    obtain ⟨hparse, hvalid⟩ := Config.parseText_of_load hload
    exact Config.load_toValue cpus hvalid (Config.parseText_fits hparse)

end NetNode
