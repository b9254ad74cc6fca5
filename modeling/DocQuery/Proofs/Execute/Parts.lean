import Mathlib.Data.List.Infix
import Mathlib.Data.List.Pairwise

/-! # The parts of a grouping

Documents are put into parts one by one, each where a part with its written key is, or into a new
part.

* `IsGrouping` — parts that hold every document once, related ones together and others apart.
* `isGrouping_joinPart` — one more document keeps this.
* `isGrouping_partsOf` — the parts of all documents are a grouping by the written key.
-/

namespace DocQuery

/-- Whether the parts hold each document once, with those together that are related. -/
structure IsGrouping {α : Type} (related : α → α → Prop) (docs : List α)
    (parts : List (List α)) : Prop where
  perm : parts.flatten.Perm docs
  nonempty : ∀ part ∈ parts, part ≠ []
  together : ∀ part ∈ parts, ∀ d ∈ part, ∀ e ∈ part, related d e
  apart : parts.Pairwise fun p q => ∀ d ∈ p, ∀ e ∈ q, ¬ related d e ∧ ¬ related e d

variable {α : Type} {written : α → String} {d : α} {docs : List α} {part : List α}
  {parts : List (List α)}

namespace IsGrouping

variable {related other : α → α → Prop} {e : α} {p q : List α}

theorem exists_part (grouping : IsGrouping related docs parts) (member : d ∈ docs) :
    ∃ part ∈ parts, d ∈ part :=
  List.mem_flatten.mp (grouping.perm.mem_iff.mpr member)

/-- Documents are related exactly if their parts are the same. -/
theorem related_iff (grouping : IsGrouping related docs parts) (ofP : p ∈ parts) (ofQ : q ∈ parts)
    (inP : d ∈ p) (inQ : e ∈ q) : related d e ↔ p = q := by
  constructor
  · intro yes
    by_contra different
    have symmetric : Std.Symm fun p q : List α =>
        ∀ d ∈ p, ∀ e ∈ q, ¬ related d e ∧ ¬ related e d :=
      ⟨fun p q apart e inQ d inP => (apart d inP e inQ).symm⟩
    exact (grouping.apart.forall ofP ofQ different d inP e inQ).1 yes
  · rintro rfl
    exact grouping.together p ofP d inP e inQ

/-- The parts are a grouping by another relation exactly if it agrees on the documents. -/
theorem congr_iff (grouping : IsGrouping related docs parts) :
    IsGrouping other docs parts ↔ ∀ d ∈ docs, ∀ e ∈ docs, related d e ↔ other d e := by
  constructor
  · intro another d ofD e ofE
    obtain ⟨p, ofP, inP⟩ := grouping.exists_part ofD
    obtain ⟨q, ofQ, inQ⟩ := grouping.exists_part ofE
    rw [grouping.related_iff ofP ofQ inP inQ, another.related_iff ofP ofQ inP inQ]
  · intro agree
    have inside {part : List α} (ofParts : part ∈ parts) {d : α} (member : d ∈ part) : d ∈ docs :=
      grouping.perm.subset (List.mem_flatten.mpr ⟨part, ofParts, member⟩)
    refine ⟨grouping.perm, grouping.nonempty, fun part ofParts d inD e inE => ?_, ?_⟩
    · exact (agree d (inside ofParts inD) e (inside ofParts inE)).mp
        (grouping.together part ofParts d inD e inE)
    · refine grouping.apart.imp_of_mem fun ofP ofQ apart d inP e inQ => ?_
      rw [← agree d (inside ofP inP) e (inside ofQ inQ),
        ← agree e (inside ofQ inQ) d (inside ofP inP)]
      exact apart d inP e inQ

/-- Two documents in one part are related. -/
theorem related_of_single
    (grouping : IsGrouping related [d, e] parts) (single : parts.length = 1) : related d e := by
  obtain ⟨part, rfl⟩ := List.length_eq_one_iff.mp single
  have perm : part.Perm [d, e] := by simpa using grouping.perm
  exact grouping.together part List.mem_cons_self d (perm.mem_iff.mpr (by simp)) e
    (perm.mem_iff.mpr (by simp))

end IsGrouping

/-! ## One document -/

/-- Puts a document into the first part with a document of its key, or into a new part. -/
def joinPart (written : α → String) (d : α) : List (List α) → List (List α)
  | [] => [[d]]
  | part :: rest =>
    if part.any (written · == written d) then (part ++ [d]) :: rest
    else part :: joinPart written d rest

/-- A part afterwards is as it was, or has the document behind others of its key or on its own. -/
theorem mem_joinPart (member : part ∈ joinPart written d parts) :
    part ∈ parts ∨ part = [d] ∨
      ∃ old ∈ parts, (∃ e ∈ old, written e = written d) ∧ part = old ++ [d] := by
  induction parts with
  | nil => exact .inr (.inl (List.mem_singleton.mp member))
  | cons p rest ih =>
    rw [joinPart] at member
    split at member
    · rename_i found
      rcases List.mem_cons.mp member with rfl | later
      · exact .inr (.inr ⟨p, List.mem_cons_self, by simpa using found, rfl⟩)
      · exact .inl (List.mem_cons_of_mem _ later)
    · rcases List.mem_cons.mp member with rfl | later
      · exact .inl List.mem_cons_self
      · rcases ih later with old | new | ⟨old, ofRest, joined⟩
        · exact .inl (List.mem_cons_of_mem _ old)
        · exact .inr (.inl new)
        · exact .inr (.inr ⟨old, List.mem_cons_of_mem _ ofRest, joined⟩)

theorem flatten_joinPart (written : α → String) (d : α) (parts : List (List α)) :
    (joinPart written d parts).flatten.Perm (parts.flatten ++ [d]) := by
  induction parts with
  | nil => simp [joinPart]
  | cons p rest ih =>
    rw [joinPart]
    split
    · rw [List.flatten_cons, List.flatten_cons, List.append_assoc, List.append_assoc]
      exact List.perm_append_comm.append_left p
    · rw [List.flatten_cons, List.flatten_cons, List.append_assoc]
      exact ih.append_left p

/-- The relation of documents whose keys are written alike. -/
def SameKey (written : α → String) (d e : α) : Prop := written d = written e

theorem together_joinPart
    (together : ∀ part ∈ parts, ∀ d ∈ part, ∀ e ∈ part, SameKey written d e) :
    ∀ part ∈ joinPart written d parts, ∀ x ∈ part, ∀ y ∈ part, SameKey written x y := by
  intro part member
  rcases mem_joinPart member with old | rfl | ⟨old, ofParts, ⟨e, inside, same⟩, rfl⟩
  · exact together part old
  · simp [SameKey]
  · -- the key of the document is that of all documents of the part
    have key : ∀ x ∈ old ++ [d], written x = written d := by
      intro x inPart
      rcases List.mem_append.mp inPart with inOld | new
      · exact (together old ofParts x inOld e inside).trans same
      · rw [List.mem_singleton.mp new]
    exact fun x inX y inY => (key x inX).trans (key y inY).symm

theorem apart_joinPart
    (together : ∀ part ∈ parts, ∀ d ∈ part, ∀ e ∈ part, SameKey written d e)
    (apart : parts.Pairwise fun p q => ∀ d ∈ p, ∀ e ∈ q, ¬ SameKey written d e) :
    (joinPart written d parts).Pairwise fun p q => ∀ d ∈ p, ∀ e ∈ q, ¬ SameKey written d e := by
  induction parts with
  | nil => simp [joinPart]
  | cons p rest ih =>
    rw [List.pairwise_cons] at apart
    rw [List.forall_mem_cons] at together
    rw [joinPart]
    split <;> rw [List.pairwise_cons]
    · rename_i found
      refine ⟨fun q ofRest x inP y inQ same => ?_, apart.2⟩
      obtain ⟨e, inside, key⟩ : ∃ e ∈ p, written e = written d := by simpa using found
      rcases List.mem_append.mp inP with inP | new
      · exact apart.1 q ofRest x inP y inQ same
      · rw [List.mem_singleton.mp new] at same
        exact apart.1 q ofRest e inside y inQ (key.trans same)
    · rename_i absent
      refine ⟨fun q ofRest x inP y inQ same => ?_, ih together.2 apart.2⟩
      have notHere : ∀ x ∈ p, written x ≠ written d := by simpa using absent
      rcases mem_joinPart ofRest with old | rfl | ⟨old, ofOld, -, rfl⟩
      · exact apart.1 q old x inP y inQ same
      · rw [List.mem_singleton.mp inQ] at same
        exact notHere x inP same
      · rcases List.mem_append.mp inQ with inOld | new
        · exact apart.1 old ofOld x inP y inOld same
        · rw [List.mem_singleton.mp new] at same
          exact notHere x inP same

theorem isGrouping_joinPart (grouping : IsGrouping (SameKey written) docs parts) (d : α) :
    IsGrouping (SameKey written) (docs ++ [d]) (joinPart written d parts) where
  perm := (flatten_joinPart written d parts).trans (grouping.perm.append_right [d])
  nonempty part member := by
    rcases mem_joinPart member with old | rfl | ⟨old, -, -, rfl⟩
    · exact grouping.nonempty part old
    · exact List.cons_ne_nil _ _
    · exact List.append_ne_nil_of_right_ne_nil _ (List.cons_ne_nil _ _)
  together := together_joinPart grouping.together
  apart := (apart_joinPart grouping.together (grouping.apart.imp fun apart d inP e inQ =>
    (apart d inP e inQ).1)).imp fun apart d inP e inQ =>
      ⟨apart d inP e inQ, fun same => apart d inP e inQ same.symm⟩

/-! ## All documents -/

/-- The parts after all documents have been put in their places. -/
def partsOf (written : α → String) (docs : List α) : List (List α) :=
  docs.foldl (fun parts d => joinPart written d parts) []

theorem partsOf_concat (written : α → String) (docs : List α) (d : α) :
    partsOf written (docs ++ [d]) = joinPart written d (partsOf written docs) := by
  simp [partsOf]

/-- Where all keys are written alike, all documents are one part. -/
theorem partsOf_of_same (same : ∀ d e, written d = written e) (docs : List α) :
    partsOf written docs = if docs = [] then [] else [docs] := by
  induction docs using List.reverseRecOn with
  | nil => rfl
  | append_singleton docs d ih =>
    rw [partsOf_concat, ih]
    rcases docs with _ | ⟨first, rest⟩
    · rfl
    · simp [joinPart, same first d]

theorem isGrouping_partsOf (written : α → String) (docs : List α) :
    IsGrouping (SameKey written) docs (partsOf written docs) := by
  induction docs using List.reverseRecOn with
  | nil => exact ⟨.refl _, by simp [partsOf], by simp [partsOf], by simp [partsOf]⟩
  | append_singleton docs d ih => exact partsOf_concat written docs d ▸ isGrouping_joinPart ih d

end DocQuery
