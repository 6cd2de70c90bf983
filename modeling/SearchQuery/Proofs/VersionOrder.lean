import SearchQuery.Version

/-!
# The order of versions is consistent

Parts, cores, pre-releases and whole versions are ordered by total preorders. A
core is ordered like an infinite sequence of parts that ends in zeros, so cores
of different lengths are compared by lengthening both to one length.
-/

namespace SearchQuery
namespace Version

instance : Std.TransCmp partOrder where
  eq_swap {a b} := by
    simp only [partOrder]
    cases Text.natural? (Nat.pow 2 64) a <;>
      cases Text.natural? (Nat.pow 2 64) b
    · exact Std.OrientedOrd.eq_swap
    · rfl
    · rfl
    · exact Std.OrientedOrd.eq_swap
  isLE_trans {a b c} first second := by
    simp only [partOrder] at first second ⊢
    cases numberA : Text.natural? (Nat.pow 2 64) a <;>
      cases numberB : Text.natural? (Nat.pow 2 64) b <;>
      cases numberC : Text.natural? (Nat.pow 2 64) c <;>
      simp only [numberA, numberB, numberC] at first second ⊢
    all_goals first
      | exact Std.TransOrd.isLE_trans first second
      | contradiction
      | rfl

/-- The parts of a core, with zeros after them up to a length. -/
def lengthened (length : Nat) (parts : List (List Char)) : List (List Char) :=
  parts ++ List.replicate (length - parts.length) ['0']

/-- Two cores are ordered like the lists of equal length that they are
lengthened to. -/
theorem coreOrder_eq_compareLex
    (length : Nat)
    (a b : List (List Char))
    (shortA : a.length ≤ length)
    (shortB : b.length ≤ length) :
    coreOrder a b = List.compareLex partOrder (lengthened length a)
      (lengthened length b) := by
  have zerosEqual : ∀ count, List.compareLex partOrder
      (List.replicate count ['0']) (List.replicate count ['0']) = .eq :=
    fun count => Std.ReflCmp.compare_self
  induction length generalizing a b with
  | zero =>
      obtain rfl : a = [] := List.eq_nil_of_length_eq_zero (by omega)
      obtain rfl : b = [] := List.eq_nil_of_length_eq_zero (by omega)
      rw [coreOrder]
      exact (zerosEqual 0).symm
  | succ length hypothesis =>
      cases a with
      | nil =>
          cases b with
          | nil => simp [coreOrder, lengthened, zerosEqual]
          | cons partB restB =>
              rw [coreOrder,
                hypothesis [] restB (by simp) (by simpa using shortB)]
              simp [lengthened, List.replicate_succ, List.compareLex_cons_cons]
      | cons partA restA =>
          cases b with
          | nil =>
              rw [coreOrder,
                hypothesis restA [] (by simpa using shortA) (by simp)]
              simp [lengthened, List.replicate_succ, List.compareLex_cons_cons]
          | cons partB restB =>
              rw [coreOrder, hypothesis restA restB (by simpa using shortA)
                (by simpa using shortB)]
              simp [lengthened, List.compareLex_cons_cons]

instance : Std.TransCmp coreOrder where
  eq_swap {a b} := by
    have shortA : a.length ≤ max a.length b.length := Nat.le_max_left _ _
    have shortB : b.length ≤ max a.length b.length := Nat.le_max_right _ _
    rw [coreOrder_eq_compareLex _ a b shortA shortB,
      coreOrder_eq_compareLex _ b a shortB shortA]
    exact Std.OrientedCmp.eq_swap
  isLE_trans {a b c} first second := by
    obtain ⟨length, shortA, shortB, shortC⟩ :
        ∃ length, a.length ≤ length ∧ b.length ≤ length ∧ c.length ≤ length :=
      ⟨a.length + b.length + c.length, by omega, by omega, by omega⟩
    rw [coreOrder_eq_compareLex length a b shortA shortB] at first
    rw [coreOrder_eq_compareLex length b c shortB shortC] at second
    rw [coreOrder_eq_compareLex length a c shortA shortC]
    exact Std.TransCmp.isLE_trans first second

/-- Pre-releases are ordered as lists of parts. -/
theorem preReleaseOrder_eq_compareLex (a b : List (List Char)) :
    preReleaseOrder a b = List.compareLex partOrder a b := by
  induction a generalizing b with
  | nil => cases b <;> rfl
  | cons partA restA hypothesis =>
      cases b with
      | nil => rfl
      | cons partB restB =>
          rw [preReleaseOrder, List.compareLex_cons_cons, hypothesis]

instance : Std.TransCmp preReleaseOrder where
  eq_swap {a b} := by
    rw [preReleaseOrder_eq_compareLex, preReleaseOrder_eq_compareLex]
    exact Std.OrientedCmp.eq_swap
  isLE_trans {a b c} first second := by
    rw [preReleaseOrder_eq_compareLex] at first second ⊢
    exact Std.TransCmp.isLE_trans first second

/-- The order of what follows equal cores: no pre-release comes last. -/
def suffixOrder : Option (List Char) → Option (List Char) → Ordering
  | none, none => .eq
  | some _, none => .lt
  | none, some _ => .gt
  | some a, some b => preReleaseOrder (Text.split '.' a) (Text.split '.' b)

instance : Std.TransCmp suffixOrder where
  eq_swap {a b} := by
    cases a <;> cases b
    · rfl
    · rfl
    · rfl
    · exact @Std.OrientedCmp.eq_swap _ preReleaseOrder _ _ _
  isLE_trans {a b c} first second := by
    cases a <;> cases b <;> cases c
    all_goals first
      | exact @Std.TransCmp.isLE_trans _ preReleaseOrder _ _ _ _ first second
      | contradiction
      | rfl

/-- The order of versions is that of the cores, and then that of the
suffixes. -/
theorem order_eq_compareLex (a b : String) :
    order a b = compareLex
      (fun a b => coreOrder (Text.split '.' (splitPreRelease a).1)
        (Text.split '.' (splitPreRelease b).1))
      (fun a b => suffixOrder (splitPreRelease a).2 (splitPreRelease b).2)
        a b := by
  unfold order compareLex suffixOrder
  rfl

end Version
end SearchQuery
