import Mathlib
import NetNode.Error.Classify

/-!
# How the two socket classifiers relate

A failed accept and a failed receive are classified by the same rules but for the first two:
which peer failures are transient, and what an invalid argument means. Beside the kind, the
classifiers read six error numbers (`classifiedErrnos`). A failure that carries none of them is
classified as its bare kind would be (`classifyAccept_eq_simple`, `classifyReceive_eq_simple`),
and on a bare kind the two classifiers agree (`classifyAccept_simple_eq_classifyReceive`).

`socket_classes` follows: the classifiers differ exactly on an invalid argument, which the
listener takes for a closed socket and the datagram socket for a broken one; a failure that
calls for a pause is transient to both; and an error number is classified as the kind it falls
into exactly when it is none of the six.
-/

namespace NetNode

open NetNode.Os

/-- The error numbers the classifiers read beside the kind. -/
def classifiedErrnos : List Int := [EINVAL, EBADF, ENOTSOCK, ECANCELED, ESHUTDOWN, ENETDOWN]

theorem mem_classifiedErrnos {n : Int} :
    n ∈ classifiedErrnos ↔
      n = EINVAL ∨ n = EBADF ∨ n = ENOTSOCK ∨ n = ECANCELED ∨ n = ESHUTDOWN ∨ n = ENETDOWN := by
  simp [classifiedErrnos]

/-- A failure whose error number, if it has one, is none the classifiers read. -/
def Os.IoError.KindOnly (e : IoError) : Prop := ∀ n, e.rawOs? = some n → n ∉ classifiedErrnos

@[simp] theorem Os.IoError.kind_os (n : Int) : (IoError.os n).kind = kindOfErrno n := rfl

@[simp] theorem Os.IoError.kind_simple (k : ErrorKind) : (IoError.simple k).kind = k := rfl

@[simp] theorem Os.IoError.rawOs_simple (k : ErrorKind) : (IoError.simple k).rawOs? = none := rfl

theorem Os.IoError.eq_os_of_rawOs {e : IoError} {n : Int} (h : e.rawOs? = some n) :
    e = .os n := by
  cases e <;> simp_all [IoError.rawOs?]

theorem Os.IoError.kindOnly_os {n : Int} : (IoError.os n).KindOnly ↔ n ∉ classifiedErrnos := by
  simp [IoError.KindOnly, IoError.rawOs?]

/-! ## Failures read by their kind alone -/

theorem classifyCommon_eq_simple {e : IoError} (h : e.KindOnly) :
    classifyCommon e = classifyCommon (.simple e.kind) := by
  cases e with
  | os n =>
    have hn : n ∉ classifiedErrnos := IoError.kindOnly_os.mp h
    simp only [mem_classifiedErrnos, not_or] at hn
    obtain ⟨-, h9, h88, h125, h108, h100⟩ := hn
    simp [classifyCommon, IoError.rawOs?, h9, h88, h125, h108, h100]
  | simple k => rfl
  | custom k m => rfl

theorem Os.IoError.KindOnly.rawOs_ne_invalid {e : IoError} (h : e.KindOnly) :
    e.rawOs? ≠ some EINVAL :=
  fun hr => h _ hr (mem_classifiedErrnos.mpr (.inl rfl))

/-- A failed accept that carries none of the numbers read is classified by its kind. -/
theorem classifyAccept_eq_simple {e : IoError} (h : e.KindOnly) :
    classifyAccept e = classifyAccept (.simple e.kind) := by
  simp only [classifyAccept, IoError.kind_simple, IoError.rawOs_simple, h.rawOs_ne_invalid,
    classifyCommon_eq_simple h, reduceCtorEq, if_false]

/-- A failed receive that carries none of the numbers read is classified by its kind. -/
theorem classifyReceive_eq_simple {e : IoError} (h : e.KindOnly) :
    classifyReceive e = classifyReceive (.simple e.kind) := by
  simp only [classifyReceive, IoError.kind_simple, IoError.rawOs_simple, h.rawOs_ne_invalid,
    classifyCommon_eq_simple h, reduceCtorEq, if_false]

/-- On a bare kind the two classifiers agree: a refused peer is transient to the listener by
the shared fallback, and an aborted one to the datagram socket likewise. -/
theorem classifyAccept_simple_eq_classifyReceive (k : ErrorKind) :
    classifyAccept (.simple k) = classifyReceive (.simple k) := by
  cases k <;> rfl

/-! ## The six numbers read -/

/-- On the numbers read, each classifier tells the number from its kind, and the two differ on
the invalid argument alone. -/
theorem classify_classifiedErrno {n : Int} (h : n ∈ classifiedErrnos) :
    classifyAccept (.os n) ≠ classifyAccept (.simple (kindOfErrno n)) ∧
    classifyReceive (.os n) ≠ classifyReceive (.simple (kindOfErrno n)) ∧
    (classifyAccept (.os n) ≠ classifyReceive (.os n) ↔ n = EINVAL) := by
  rcases mem_classifiedErrnos.mp h with rfl | rfl | rfl | rfl | rfl | rfl <;> decide

theorem classify_invalid_argument {e : IoError} (h : e.rawOs? = some EINVAL) :
    classifyAccept e = .aborted ∧ classifyReceive e = .critical := by
  obtain rfl := IoError.eq_os_of_rawOs h
  decide

/-! ## Failures that call for a pause -/

/-- A failure that calls for a pause carries none of the numbers read, and falls into no kind
but the uncategorized one or running out of memory. -/
theorem needsBackoff_kindOnly {e : IoError} (h : needsBackoff e = true) :
    e.KindOnly ∧ (e.kind = .uncategorized ∨ e.kind = .outOfMemory) := by
  cases e with
  | os n =>
    rw [IoError.kindOnly_os]
    obtain hn | hkind : n ∈ [EMFILE, ENFILE, ENOBUFS, ENOMEM] ∨ kindOfErrno n = .outOfMemory := by
      simp only [needsBackoff, IoError.rawOs?, decide_eq_true_eq, Bool.or_eq_true] at h
      simpa [or_assoc] using h
    · simp only [List.mem_cons, List.not_mem_nil, or_false] at hn
      rcases hn with rfl | rfl | rfl | rfl <;> decide
    · -- none of the six numbers falls under running out of memory
      refine ⟨fun hn => ?_, .inr hkind⟩
      rcases mem_classifiedErrnos.mp hn with rfl | rfl | rfl | rfl | rfl | rfl <;>
        revert hkind <;> decide
  | simple k | custom k _ =>
    simp only [needsBackoff, IoError.rawOs?, decide_eq_true_eq] at h
    exact ⟨(fun n hn => by cases hn), .inr h⟩

/-- A failure that calls for a pause is transient to both classifiers. -/
theorem needsBackoff_transient {e : IoError} (h : needsBackoff e = true) :
    classifyAccept e = .transient ∧ classifyReceive e = .transient := by
  obtain ⟨hk, hkind⟩ := needsBackoff_kindOnly h
  rw [classifyAccept_eq_simple hk, classifyReceive_eq_simple hk]
  rcases hkind with hkind | hkind <;> rw [hkind] <;> decide

/-! ## The classifiers together -/

/-- The two classifiers differ exactly on an invalid argument, which a listener takes for a
socket closed under it and a datagram socket for a broken one. A failure that calls for a pause
is transient to both. An error number is classified as the kind it falls into exactly when it
is none of the six numbers the classifiers read. -/
theorem socket_classes :
    (∀ e : IoError, classifyAccept e ≠ classifyReceive e ↔ e.rawOs? = some EINVAL) ∧
    (∀ e : IoError, e.rawOs? = some EINVAL →
      classifyAccept e = .aborted ∧ classifyReceive e = .critical) ∧
    (∀ e : IoError, needsBackoff e = true →
      classifyAccept e = .transient ∧ classifyReceive e = .transient) ∧
    (∀ n : Int,
      (classifyAccept (.os n) = classifyAccept (.simple (kindOfErrno n)) ↔
        n ∉ classifiedErrnos) ∧
      (classifyReceive (.os n) = classifyReceive (.simple (kindOfErrno n)) ↔
        n ∉ classifiedErrnos)) := by
  refine ⟨fun e => ?_, fun e => classify_invalid_argument, fun e => needsBackoff_transient,
    fun n => ?_⟩
  · by_cases h : e.KindOnly
    · -- read by its kind alone, a failure is classified alike and carries no invalid argument
      rw [classifyAccept_eq_simple h, classifyReceive_eq_simple h,
        classifyAccept_simple_eq_classifyReceive]
      exact iff_of_false (fun hne => hne rfl) h.rawOs_ne_invalid
    · obtain ⟨n, hr, hn⟩ : ∃ n, e.rawOs? = some n ∧ n ∈ classifiedErrnos := by
        simpa [IoError.KindOnly] using h
      obtain rfl := IoError.eq_os_of_rawOs hr
      simpa [IoError.rawOs?] using (classify_classifiedErrno hn).2.2
  · by_cases hn : n ∈ classifiedErrnos
    · obtain ⟨ha, hr, -⟩ := classify_classifiedErrno hn
      exact ⟨iff_of_false ha (· hn), iff_of_false hr (· hn)⟩
    · have hk : (IoError.os n).KindOnly := IoError.kindOnly_os.mpr hn
      exact ⟨iff_of_true (classifyAccept_eq_simple hk) hn,
        iff_of_true (classifyReceive_eq_simple hk) hn⟩

end NetNode
