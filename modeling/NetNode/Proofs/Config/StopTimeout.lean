import Mathlib
import NetNode.Config.Basic

/-!
# Stop timeouts kept in milliseconds

A node keeps its stop timeout as a 64-bit count of milliseconds. Setting it from a span keeps
the span's whole milliseconds wrapped to 64 bits (`Span.millisWord`); reading it splits the
count back into seconds and nanoseconds (`Span.ofMillis`).

The split is exact for every count (`Span.totalMillis_ofMillis`), so two counts split apart
(`Span.ofMillis_injective`), and a span whose nanoseconds stay below a second is the split of
its own milliseconds once cut to them (`Span.ofMillis_totalMillis`). Hence `stop_timeout_millis`:
a timeout set and read back is the span cut to whole milliseconds exactly when those fit in
64 bits, and otherwise the split of the wrapped count.
-/

namespace NetNode

/-- Whole milliseconds of a span, with nothing wrapped. -/
def Span.totalMillis (s : Span) : Nat := s.secs * 1000 + s.nanos / 1000000

/-- The span cut down to whole milliseconds. -/
def Span.truncMillis (s : Span) : Span := ⟨s.secs, s.nanos / 1000000 * 1000000⟩

theorem Span.millisWord_eq (s : Span) : s.millisWord = s.totalMillis % (wordMax + 1) := rfl

/-! ## Splitting a count of milliseconds -/

/-- The split keeps every millisecond of the count. -/
@[simp] theorem Span.totalMillis_ofMillis (ms : Nat) : (Span.ofMillis ms).totalMillis = ms := by
  simp only [Span.totalMillis, Span.ofMillis]
  omega

/-- The split has fewer than a second of nanoseconds, so it is a span as the system keeps one
and its nanoseconds fit in 32 bits. -/
theorem Span.ofMillis_nanos_lt (ms : Nat) : (Span.ofMillis ms).nanos < 1000000000 := by
  simp only [Span.ofMillis]
  omega

theorem Span.ofMillis_injective : Function.Injective Span.ofMillis := by
  intro a b h
  rw [← Span.totalMillis_ofMillis a, h, Span.totalMillis_ofMillis]

/-- A span with fewer than a second of nanoseconds, cut to whole milliseconds, is the split of
its milliseconds. -/
theorem Span.ofMillis_totalMillis {s : Span} (h : s.nanos < 1000000000) :
    Span.ofMillis s.totalMillis = s.truncMillis := by
  obtain ⟨secs, nanos⟩ := s
  dsimp only at h
  simp only [Span.ofMillis, Span.totalMillis, Span.truncMillis, Span.mk.injEq]
  constructor <;> omega

/-- The split of the wrapped milliseconds of a span is the span cut to whole milliseconds
exactly when nothing was wrapped. -/
theorem Span.ofMillis_millisWord_eq_iff {s : Span} (h : s.nanos < 1000000000) :
    Span.ofMillis s.millisWord = s.truncMillis ↔ s.totalMillis ≤ wordMax := by
  rw [← Span.ofMillis_totalMillis h, Span.ofMillis_injective.eq_iff, Span.millisWord_eq,
    Nat.mod_eq_iff_lt (by decide)]
  omega

/-! ## The stop timeouts of both nodes -/

@[simp] theorem TcpConfig.stopTimeout_eq (c : TcpConfig) :
    c.stopTimeout = .ofMillis c.stopTimeoutMs := rfl

@[simp] theorem UdpConfig.stopTimeout_eq (c : UdpConfig) :
    c.stopTimeout = .ofMillis c.stopTimeoutMs := rfl

@[simp] theorem TcpConfig.withStopTimeout_stopTimeoutMs (c : TcpConfig) (s : Span) :
    (c.withStopTimeout s).stopTimeoutMs = s.millisWord := rfl

@[simp] theorem UdpConfig.withStopTimeout_stopTimeoutMs (c : UdpConfig) (s : Span) :
    (c.withStopTimeout s).stopTimeoutMs = s.millisWord := rfl

/-- A stop timeout is kept as the span's whole milliseconds modulo 2^64 and read back as the
exact split of the count kept, with fewer than a second of nanoseconds; so a timeout set from a
span and read back is that span cut to whole milliseconds exactly when its milliseconds fit in
64 bits. TCP and UDP nodes keep their timeouts alike. -/
theorem stop_timeout_millis (s : Span) (hs : s.nanos < 1000000000) (t : TcpConfig)
    (u : UdpConfig) :
    (t.withStopTimeout s).stopTimeoutMs = s.totalMillis % (wordMax + 1) ∧
    (u.withStopTimeout s).stopTimeoutMs = s.totalMillis % (wordMax + 1) ∧
    (t.stopTimeout.totalMillis = t.stopTimeoutMs ∧ t.stopTimeout.nanos < 1000000000) ∧
    (u.stopTimeout.totalMillis = u.stopTimeoutMs ∧ u.stopTimeout.nanos < 1000000000) ∧
    ((t.withStopTimeout s).stopTimeout = s.truncMillis ↔ s.totalMillis ≤ wordMax) ∧
    ((u.withStopTimeout s).stopTimeout = s.truncMillis ↔ s.totalMillis ≤ wordMax) := by
  refine ⟨rfl, rfl, ?_, ?_, ?_, ?_⟩
  · exact ⟨Span.totalMillis_ofMillis _, Span.ofMillis_nanos_lt _⟩
  · exact ⟨Span.totalMillis_ofMillis _, Span.ofMillis_nanos_lt _⟩
  · exact Span.ofMillis_millisWord_eq_iff hs
  · exact Span.ofMillis_millisWord_eq_iff hs

/-- The longest span with a whole number of seconds below 2^64: its milliseconds wrap. -/
theorem stop_timeout_millis_of_longest_span :
    let s : Span := ⟨wordMax, 999999999⟩
    let t := TcpConfig.new (.loopback 7000)
    let u := UdpConfig.new ⟨4, by decide, by decide⟩ (.loopback 7001)
    s.nanos < 1000000000 ∧
    (t.withStopTimeout s).stopTimeoutMs = s.totalMillis % (wordMax + 1) ∧
    (u.withStopTimeout s).stopTimeoutMs = s.totalMillis % (wordMax + 1) ∧
    (t.stopTimeout.totalMillis = t.stopTimeoutMs ∧ t.stopTimeout.nanos < 1000000000) ∧
    (u.stopTimeout.totalMillis = u.stopTimeoutMs ∧ u.stopTimeout.nanos < 1000000000) ∧
    ((t.withStopTimeout s).stopTimeout = s.truncMillis ↔ s.totalMillis ≤ wordMax) ∧
    ((u.withStopTimeout s).stopTimeout = s.truncMillis ↔ s.totalMillis ≤ wordMax) :=
  ⟨by decide, stop_timeout_millis _ (by decide) _ _⟩

/-- A span of a quarter second is kept as 250 milliseconds and read back whole. -/
example : ((TcpConfig.new (.loopback 7000)).withStopTimeout (.ofMillis 250)).stopTimeoutMs = 250 ∧
    ((TcpConfig.new (.loopback 7000)).withStopTimeout (.ofMillis 250)).stopTimeout =
      .ofMillis 250 := by decide

end NetNode
