import SearchQuery.Proofs.GlobSources
import SearchQuery.Regex.Automaton
import Mathlib.Algebra.Ring.Nat
import Mathlib.Data.List.Basic

/-!
# Admitted wildcard patterns

States for the bytes of a set are shared where a table remembers them, so that
the size of an automaton depends on the places of keys in the table. Without the
table it would only be larger. This bounds the automata of a wildcard pattern by
its length, and patterns that are not very long have an expression.
-/

namespace SearchQuery
namespace Regex

theorem foldl_le_add_sum
    {α ι : Type}
    (step : α → ι → α)
    (measure : α → Nat)
    (growth : ι → Nat)
    (grows : ∀ state item, measure (step state item) ≤
      measure state + growth item)
    (items : List ι)
    (state : α) :
    measure (items.foldl step state) ≤
      measure state + (items.map growth).sum := by
  induction items generalizing state with
  | nil => simp
  | cons item items hypothesis =>
      have first := grows state item
      have others := hypothesis (step state item)
      simp only [List.foldl_cons, List.map_cons, List.sum_cons]
      omega

namespace Extent

@[simp] theorem bytes_plus (a b : Extent) :
    (a.plus b).bytes = a.bytes + b.bytes := by
  simp only [plus, bytes]
  omega

@[simp] theorem bytes_plain (count : Nat) :
    (plain count).bytes = 32 * count := rfl

@[simp] theorem bytes_links (count : Nat) :
    (links count).bytes = 4 * count := by
  simp [links, bytes]

@[simp] theorem bytes_reader (ranges : Nat) :
    (reader ranges).bytes = 32 + 8 * ranges := rfl

end Extent

/-! ### Sets -/

theorem SharedStates.bytes_obtain_le (shared : SharedStates) (key : List Nat)
    (state : Extent) :
    (shared.obtain key state).2.extent.bytes ≤
      shared.extent.bytes + state.bytes := by
  unfold obtain
  split <;> simp

/-- The bytes of the states that read some sequences forward, when none is
shared. -/
def forwardBytes : Nat → List (List ByteRange) → Nat
  | 0, _ => 0
  | width + 1, sequences =>
      if sequences.any List.isEmpty then 0
      else
        ((byHead sequences).map fun group => forwardBytes width group.2).sum +
          (32 + 8 * (byHead sequences).length)

/-- The bytes of the states that read some sequences backward, when none is
shared. -/
def backwardBytes (sequences : List (List ByteRange)) : Nat :=
  (sequences.map fun bytes => 32 * bytes.length + 4).sum

/-- Build the states behind a first byte range, and add their numbers to a
key. -/
def readGroup (target width : Nat) (read : List Nat × SharedStates)
    (group : ByteRange × List (List ByteRange)) : List Nat × SharedStates :=
  let (next, shared) := readForward target width group.2 read.2
  (next :: group.1.2 :: group.1.1 :: read.1, shared)

theorem readForward_succ
    (target width : Nat)
    (sequences : List (List ByteRange))
    (shared : SharedStates) :
    readForward target (width + 1) sequences shared =
      if sequences.any List.isEmpty then (target, shared)
      else
        let read :=
          (byHead sequences).foldl (readGroup target width) ([], shared)
        read.2.obtain read.1.reverse (.reader (read.1.length / 3)) := rfl

theorem bytes_readForward_le
    (target width : Nat)
    (sequences : List (List ByteRange))
    (shared : SharedStates) :
    (readForward target width sequences shared).2.extent.bytes ≤
      shared.extent.bytes + forwardBytes width sequences := by
  induction width generalizing sequences shared with
  | zero => exact Nat.le_refl _
  | succ width hypothesis =>
      rw [readForward_succ, forwardBytes]
      split
      · exact Nat.le_refl _
      · have built := foldl_le_add_sum (readGroup target width)
          (fun read => read.2.extent.bytes)
          (fun group => forwardBytes width group.2)
            (fun read group => hypothesis group.2 read.2)
          (byHead sequences) ([], shared)
        have keys := foldl_le_add_sum (readGroup target width)
          (fun read => read.1.length)
          (fun _ => 3) (fun read group => Nat.le_refl _) (byHead sequences)
            ([], shared)
        generalize (byHead sequences).foldl (readGroup target width)
          ([], shared) = read at *
        have obtained :=
          read.2.bytes_obtain_le read.1.reverse (.reader (read.1.length / 3))
        simp only [List.map_const', List.sum_replicate_nat, List.length_nil]
          at keys
        simp only [Extent.bytes_reader] at obtained
        dsimp only at built ⊢
        omega

theorem bytes_readBackward_le
    (target : Nat)
    (sequences : List (List ByteRange))
    (shared : SharedStates) :
    (readBackward target sequences shared).extent.bytes ≤
      shared.extent.bytes + backwardBytes sequences := by
  refine foldl_le_add_sum _ (fun shared => shared.extent.bytes) _
    (fun shared bytes => ?_)
    sequences shared
  have run := foldl_le_add_sum _ (fun read : Nat × SharedStates =>
    read.2.extent.bytes)
    (fun _ => 32)
    (fun read (range : ByteRange) =>
      read.2.bytes_obtain_le [read.1, range.1, range.2] (.plain 1)) bytes
        (target, shared)
  simp only [List.map_const', List.sum_replicate_nat] at run
  simp only [Extent.bytes_plus, Extent.bytes_links]
  omega

/-- The bytes of the states for a set, when none is shared. -/
def setBytes (direction : Direction) (characters : CharSet) : Nat :=
  if characters.isAscii then 64 + 8 * characters.ranges.length
  else
    match direction with
    | .forward => 32 + forwardBytes greatestWidth characters.byteSequences
    | .backward => 64 + backwardBytes characters.byteSequences

theorem bytes_setExtent_le (direction : Direction) (characters : CharSet)
    (extent : Extent) :
    (setExtent direction characters extent).bytes ≤
      extent.bytes + setBytes direction characters := by
  unfold setExtent setBytes
  split
  · simp only [Extent.bytes_plus, Extent.bytes_plain, Extent.bytes_reader]
    omega
  · cases direction with
    | forward =>
        refine Nat.le_trans (bytes_readForward_le _ _ _ _) ?_
        simp only [Extent.bytes_plus, Extent.bytes_plain]
        omega
    | backward =>
        refine Nat.le_trans (bytes_readBackward_le _ _ _) ?_
        simp only [Extent.bytes_plus, Extent.bytes_plain]
        omega

/-! ### Parts -/

/-- The states of a part, with the link to what follows it, take no more than
some bytes. -/
def Takes (part : Regex) (bytes : Nat) : Prop :=
  ∀ direction extent, (part.build direction extent).linked.bytes ≤
    extent.bytes + bytes

theorem Takes.mono {part : Regex} {few many : Nat} (takes : Takes part few)
    (le : few ≤ many) :
    Takes part many :=
  fun direction extent =>
    Nat.le_trans (takes direction extent) (Nat.add_le_add_left le _)

theorem takes_empty : Takes .empty 32 := by
  intro direction extent
  simp [build, Piece.linked]

theorem takes_assertion (condition : Assertion) :
    Takes (.assertion condition) 32 := by
  intro direction extent
  simp [build, Piece.linked]

theorem takes_set
    {characters : CharSet}
    {bytes : Nat}
    (bounded : ∀ direction, setBytes direction characters ≤ bytes) :
    Takes (.set characters) bytes := by
  intro direction extent
  have built := bytes_setExtent_le direction characters extent
  have := bounded direction
  simp only [build, Piece.linked]
  change (setExtent direction characters extent).bytes ≤ _
  omega

theorem length_encodeText_le (text : List Char) :
    (encodeText text).length ≤ 4 * text.length := by
  induction text with
  | nil => exact Nat.le_refl _
  | cons c text hypothesis =>
      have first : (encode c.toNat).length ≤ 4 := by
        simp only [encode, List.length_map, String.length_utf8EncodeChar]
        exact Char.utf8Size_le_four _
      simp only [encodeText, List.flatMap_cons, List.length_append,
        List.length_cons] at *
      omega

theorem takes_literal (text : List Char) :
    Takes (.literal text) (128 * text.length) := by
  intro direction extent
  have encoded := length_encodeText_le text
  simp only [build, Piece.linked, Bool.false_eq_true, if_false,
    Extent.bytes_plus, Extent.bytes_plain]
  omega

/-- A part that cannot match the empty text can be repeated with one state
more. -/
theorem takes_repeated
    {body : Regex}
    {bytes : Nat}
    (takes : Takes body bytes)
    (consumes : body.leastLength.all (· = 0) = false)
    (greedy : Bool) :
    Takes (.repeated 0 none greedy body) (bytes + 40) := by
  intro direction extent
  have built := takes direction (extent.plus (.plain 1))
  simp only [build, consumes, atLeast, Bool.false_eq_true, if_false,
    Piece.linked, if_true, Extent.bytes_plus, Extent.bytes_plain,
    Extent.bytes_links] at built ⊢
  omega

section Sequences

variable {parts : List Regex} {bytes : Regex → Nat}

theorem bytes_buildForward_le
    (takes : ∀ part ∈ parts, Takes part (bytes part))
    (direction : Direction)
    (piece : Piece) :
    (buildForward direction parts piece).linked.bytes ≤
      piece.linked.bytes + (parts.map bytes).sum := by
  induction parts generalizing piece with
  | nil => exact Nat.le_refl _
  | cons part rest hypothesis =>
      obtain ⟨takesPart, takes⟩ := List.forall_mem_cons.mp takes
      have first := takesPart direction piece.linked
      have others := hypothesis takes (part.build direction piece.linked)
      rw [buildForward, List.map_cons, List.sum_cons]
      omega

theorem bytes_buildBackward_le
    (takes : ∀ part ∈ parts, Takes part (bytes part))
    (direction : Direction)
    (piece : Piece) :
    (buildBackward direction parts piece).linked.bytes ≤
      piece.linked.bytes + (parts.map bytes).sum := by
  induction parts with
  | nil => exact Nat.le_refl _
  | cons part rest hypothesis =>
      obtain ⟨takesPart, takes⟩ := List.forall_mem_cons.mp takes
      have first :=
        takesPart direction (buildBackward direction rest piece).linked
      have others := hypothesis takes
      rw [buildBackward, List.map_cons, List.sum_cons]
      omega

theorem takes_sequence (takes : ∀ part ∈ parts, Takes part (bytes part)) :
    Takes (.sequence parts) ((parts.map bytes).sum) := by
  intro direction extent
  cases direction with
  | forward => exact bytes_buildForward_le takes .forward ⟨extent, false⟩
  | backward => exact bytes_buildBackward_le takes .backward ⟨extent, false⟩

/-- Parts that are joined take the bytes of what their joined literals leave. -/
theorem takes_concat
    (flat : ∀ part ∈ parts, part.pieces = [part])
    (takes : ∀ part ∈ parts.foldr attach [], Takes part (bytes part)) :
    Takes (concat parts) (((parts.foldr attach []).map bytes).sum + 32) := by
  have pieces : parts.flatMap pieces = parts := by
    rw [List.flatMap_congr flat, List.flatMap_singleton']
  unfold concat
  rw [pieces]
  split
  · exact takes_empty.mono (by omega)
  · rename_i part single
    rw [single] at takes ⊢
    exact (takes part (List.mem_singleton_self part)).mono (by simp)
  · exact (takes_sequence takes).mono (by omega)

end Sequences

theorem bytes_startExtent_le (direction : Direction) (expression : Regex) :
    (expression.startExtent direction).bytes ≤ 112 := by
  unfold startExtent
  cases direction <;> dsimp only <;> split <;> simp

/-- An expression that takes few enough bytes is admitted. -/
theorem isAdmitted_of_takes
    {expression : Regex}
    {bytes : Nat}
    (takes : Takes expression bytes)
    (few : bytes ≤ 10485000) :
    expression.isAdmitted = true := by
  have limit : Extent.limit = 10485760 := rfl
  have fits : ∀ direction, (expression.automatonExtent direction).bytes ≤
      Extent.limit := by
    intro direction
    have start := bytes_startExtent_le direction expression
    cases direction with
    | forward =>
        have built :=
          takes .forward ((expression.startExtent .forward).plus (.plain 1))
        simp only [automatonExtent, Piece.closed, Extent.bytes_plus,
          Extent.bytes_plain] at built ⊢
        simp only [Piece.linked, Bool.false_eq_true, if_false,
          Extent.bytes_plus, Extent.bytes_plain] at built ⊢
        omega
    | backward =>
        have built := takes .backward (expression.startExtent .backward)
        simp only [automatonExtent, Piece.closed, Extent.bytes_plus,
          Extent.bytes_plain]
        omega
  simp only [isAdmitted, Extent.fits, fits, decide_true, Bool.and_self]

end Regex

namespace Glob

open Regex

/-- The bytes of a part of the expression of a pattern, where each character has
as many as a star. -/
def partBytes : Regex → Nat
  | .literal text => 1040 * text.length
  | .assertion _ => 32
  | _ => 1040

theorem setBytes_lineCharacters_le (direction : Direction) :
    setBytes direction lineCharacters ≤ 1000 := by
  cases direction <;> decide +kernel

theorem takes_symbolExpression (c : Char) :
    Takes (symbolExpression c) (partBytes (symbolExpression c)) := by
  have line := takes_set setBytes_lineCharacters_le
  unfold symbolExpression
  split
  · exact takes_repeated line (by decide) true
  · split
    · exact line.mono (by decide)
    · exact (takes_literal [c]).mono (by simp [partBytes])

theorem partBytes_symbolExpression (c : Char) :
    partBytes (symbolExpression c) = 1040 := by
  unfold symbolExpression
  split
  · rfl
  · split <;> rfl

theorem partBytes_assertion (condition : Assertion) :
    partBytes (.assertion condition) = 32 := rfl

theorem pieces_symbolExpression (c : Char) :
    (symbolExpression c).pieces = [symbolExpression c] := by
  unfold symbolExpression
  split
  · rfl
  · split <;> rfl

/-- A part joins a literal, or is put in front. -/
theorem attach_cases (part : Regex) (parts : List Regex) :
    (∃ text next others, part = .literal text ∧
      parts = .literal next :: others ∧
      attach part parts = .literal (text ++ next) :: others) ∨
    attach part parts = part :: parts := by
  unfold attach
  split
  · exact .inl ⟨_, _, _, rfl, rfl, rfl⟩
  · exact .inr rfl

/-- Literals that are joined take as many bytes as before. -/
theorem sum_partBytes_attach (part : Regex) (parts : List Regex) :
    ((attach part parts).map partBytes).sum =
      partBytes part + (parts.map partBytes).sum := by
  rcases attach_cases part parts with
    ⟨text, next, others, rfl, rfl, joined⟩ | inFront
  · rw [joined]
    simp only [List.map_cons, List.sum_cons, partBytes, List.length_append]
    omega
  · rw [inFront, List.map_cons, List.sum_cons]

theorem sum_partBytes_foldr (parts : List Regex) :
    ((parts.foldr attach []).map partBytes).sum =
      (parts.map partBytes).sum := by
  induction parts with
  | nil => rfl
  | cons part rest hypothesis =>
      rw [List.foldr_cons, sum_partBytes_attach, hypothesis, List.map_cons,
        List.sum_cons]

theorem takes_attach
    {part : Regex}
    {parts : List Regex}
    (takesPart : Takes part (partBytes part))
    (takes : ∀ part ∈ parts, Takes part (partBytes part)) :
    ∀ piece ∈ attach part parts, Takes piece (partBytes piece) := by
  rcases attach_cases part parts with
    ⟨text, next, others, rfl, rfl, joined⟩ | inFront
  · rw [joined]
    refine List.forall_mem_cons.mpr ⟨?_, (List.forall_mem_cons.mp takes).2⟩
    exact (takes_literal (text ++ next)).mono
      (Nat.mul_le_mul_right _ (by decide))
  · rw [inFront]
    exact List.forall_mem_cons.mpr ⟨takesPart, takes⟩

theorem takes_foldr_attach
    {parts : List Regex}
    (takes : ∀ part ∈ parts, Takes part (partBytes part)) :
    ∀ part ∈ parts.foldr attach [], Takes part (partBytes part) := by
  induction parts with
  | nil => exact takes
  | cons part rest hypothesis =>
      obtain ⟨takesPart, takes⟩ := List.forall_mem_cons.mp takes
      rw [List.foldr_cons]
      exact takes_attach takesPart (hypothesis takes)

/-- The expression of at most ten thousand characters is admitted. -/
theorem isAdmitted_expression
    {pattern : String}
    (short : pattern.toList.length ≤ 10000) :
    (expression pattern).isAdmitted = true := by
  have takes :
      ∀ part ∈ .assertion .textStart :: pattern.toList.map symbolExpression ++
      [.assertion .textEnd], Takes part (partBytes part) := by
    simp only [List.cons_append, List.forall_mem_cons, List.forall_mem_append,
      List.forall_mem_map]
    exact ⟨takes_assertion _, fun c _ => takes_symbolExpression c,
      takes_assertion _, fun _ isIn => absurd isIn List.not_mem_nil⟩
  have flat :
      ∀ part ∈ .assertion .textStart :: pattern.toList.map symbolExpression ++
      [.assertion .textEnd], part.pieces = [part] := by
    simp only [List.cons_append, List.forall_mem_cons, List.forall_mem_append,
      List.forall_mem_map]
    exact ⟨rfl, fun c _ => pieces_symbolExpression c,
      rfl, fun _ isIn => absurd isIn List.not_mem_nil⟩
  refine isAdmitted_of_takes (takes_concat flat (takes_foldr_attach takes)) ?_
  simp only [sum_partBytes_foldr, List.cons_append, List.map_cons,
    List.map_append, List.map_map, Function.comp_def,
    partBytes_symbolExpression, List.map_const', List.sum_cons, List.sum_append,
    List.sum_replicate_nat, List.map_nil, List.sum_nil, partBytes_assertion]
  omega

end Glob
end SearchQuery
