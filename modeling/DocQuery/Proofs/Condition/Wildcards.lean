import DocQuery.Proofs.Condition.WrittenConditions
import DocQuery.Proofs.Condition.TopLevelCuts
import DocQuery.Proofs.Statement.Phrases

/-! # Patterns between wildcards

The patterns in the filter of a condition are those of its pieces that are read as LIKE. The check of
a statement looks for a pattern in single quotes, up to the next single quote; the reader of LIKE
takes quotes of both kinds, and the last quote for the end.

* `Filter.patterns`, `Filter.HasInnerPattern` — the patterns in a filter.
* `pieceTexts`, `isInfix_of_mem_pieceTexts` — the pieces of a condition.
* `patterns_leafFilter`, `patterns_compile` — where the patterns of a filter come from.
* `IsOverlooked` — a pattern between wildcards in a spelling that the check does not look for.
* `innerPattern_of_pattern?` — every other spelling is one that it looks for.
-/

namespace DocQuery

/-! ## Patterns of filters -/

namespace Filter

mutual

/-- The patterns in a filter, at any depth. -/
def patterns : Filter → List String
  | .pattern _ source _ => [source]
  | .all filters | .any filters => patternsOf filters
  | _ => []

def patternsOf : List Filter → List String
  | [] => []
  | filter :: rest => filter.patterns ++ patternsOf rest

end

theorem patternsOf_eq_flatMap (filters : List Filter) :
    patternsOf filters = filters.flatMap patterns := by
  induction filters with
  | nil => rfl
  | cons filter rest ih => rw [patternsOf, List.flatMap_cons, ih]

/-- A conjunction has the patterns of both sides. -/
theorem patterns_both (this other : Filter) :
    (this.both other).patterns = this.patterns ++ other.patterns := by
  obtain ⟨rfl, joined⟩ | ⟨rfl, joined⟩ | ⟨filters, rfl, joined⟩ | joined := both_cases this other <;>
    rw [joined]
  · simp [patterns]
  · simp [patterns]
  · simp [patterns, patternsOf_eq_flatMap]
  · simp [patterns, patternsOf]

end Filter

namespace Condition

open DocQuery.Text Safety

variable {scope : Scope} {s t piece field source : List Char} {filter : Filter}

/-! ## Pieces -/

theorem IsJoined.isInfix {first : List Char} {others : List (Connector × List Char)}
    (joined : IsJoined first others s) :
    first <:+: s ∧ ∀ other ∈ others, other.2 <:+: s := by
  induction joined with
  | last piece => exact ⟨List.infix_rfl, by simp⟩
  | @cons connector w next s others first spelled joined ih =>
    have behind : s <:+: first ++ (w ++ s) := ⟨first ++ w, [], by simp⟩
    refine ⟨(List.prefix_append first _).isInfix, List.forall_mem_cons.mpr ⟨?_, ?_⟩⟩
    · exact ih.1.trans behind
    · exact fun other member => (ih.2 other member).trans behind

/-- The conditions that a text is cut into at its connectors, without blanks at their ends. -/
def pieceTexts (s : List Char) : List (List Char) :=
  match cutConditions (trim s) with
  | .ok pieces => pieces.toList.map trim
  | .error _ => []

theorem isInfix_of_mem_pieceTexts (member : piece ∈ pieceTexts s) : piece <:+: s := by
  unfold pieceTexts at member
  have isCut := isCut_cutFrom .start false none (trim s)
  change IsCut .start (trim s) (cutConditions (trim s)) at isCut
  split at member
  · rename_i pieces cut
    obtain ⟨whole, listed, rfl⟩ := List.mem_map.mp member
    rw [cut] at isCut
    cases isCut with
    | ok joined _ _ _ =>
      obtain ⟨first, others⟩ := joined.isInfix
      have inside : whole <:+: trim s := by
        rcases List.mem_cons.mp listed with rfl | later
        · exact first
        · obtain ⟨other, joined, rfl⟩ := List.mem_map.mp later
          exact others other joined
      exact (trim_isInfix whole).trans (inside.trans (trim_isInfix s))
  · cases member

/-! ## Conditions with LIKE -/

/-- What is read of a condition with LIKE. -/
theorem pattern?_eq_some (read : pattern? s = some (field, source)) :
    ∃ behind gap b like inner, s = field ++ behind ∧ behind = gap ++ b :: like ∧
      isBlank b = true ∧ path? s = some (field, behind) ∧ blanks? behind = some like ∧
      (keyword? "LIKE" like).bind blanks? = some inner ∧ ('\n' ∉ source) ∧
      (inner = '\'' :: (source ++ ['\'']) ∨ inner = '"' :: (source ++ ['"'])) := by
  simp only [pattern?, bind, Option.bind_eq_some_iff] at read
  obtain ⟨⟨f, behind⟩, path, like, blank, next, keyword, inner, space, found, quoted, same⟩ := read
  cases same
  obtain ⟨gap, b, cut, blanks⟩ := blanks?_eq_some blank
  refine ⟨behind, gap, b, like, inner, (path?_append path).symm, cut, blanks b (by simp), path,
    blank, by rw [keyword, Option.bind_some, space], ?_⟩
  have enclosed {mark : Char} (read : enclosed? mark mark inner = some source) :
      '\n' ∉ source ∧ inner = mark :: (source ++ [mark]) := by
    unfold enclosed? at read
    split at read
    · cases read
    · rename_i c rest
      simp only [Option.ite_none_right_eq_some, Bool.and_eq_true, beq_iff_eq, line?,
        Option.ite_none_left_eq_some, Option.some.injEq] at read
      obtain ⟨⟨rfl, last⟩, oneLine, rfl⟩ := read
      exact ⟨by simpa using oneLine, by rw [List.dropLast_append_getLast? _ last]⟩
  cases single : enclosed? '\'' '\'' inner with
  | some text =>
    rw [single] at quoted
    cases quoted
    exact (enclosed single).imp_right .inl
  | none =>
    rw [single] at quoted
    exact (enclosed quoted).imp_right .inr

/-- No other shape begins with LIKE. -/
theorem shapes_of_pattern? (read : pattern? s = some (field, source)) :
    between? s = none ∧ membership? s = none ∧ presence? s = none := by
  obtain ⟨behind, gap, b, like, inner, -, -, -, path, blank, keyword, -⟩ := pattern?_eq_some read
  obtain ⟨rest, spelled, -⟩ := Option.bind_eq_some_iff.mp keyword
  obtain ⟨p, rfl, letters⟩ := letters?_eq_some spelled
  obtain ⟨c, p, first, -, rfl⟩ := List.forall₂_cons_left_iff.mp letters
  -- a keyword that begins with another letter is not read
  have other (word : String) {k : Char} {ks : List Char} (letters : word.toList = k :: ks)
      (upper : k.isUpper = true) (differs : k ≠ 'L') (t : List Char) :
      keyword? word (c :: t) = none := by
    have notHere : spells k c = false := by
      by_contra here
      exact differs (spells_unique upper rfl (by simpa using here) first)
    rw [keyword?, letters, letters?, notHere]
    rfl
  have noBetween := other "BETWEEN" rfl rfl (by decide)
  have noNot := other "NOT" rfl rfl (by decide)
  have noIn := other "IN" rfl rfl (by decide)
  have noIs := other "IS" rfl rfl (by decide)
  refine ⟨?_, ?_, ?_⟩
  · simp [between?, path, blank, noBetween]
  · simp [membership?, path, blank, optionalNot, noNot, noIn]
  · simp [presence?, path, blank, noIs]

/-- The filter of one condition has the pattern of the condition, if that is read as LIKE. -/
theorem patterns_leafFilter (compiled : leafFilter scope s = .ok filter) :
    filter.patterns = (pattern? s).toList.map fun read => String.ofList read.2 := by
  -- what is read as another shape is not read as LIKE
  have other (shape : ¬ (between? s = none ∧ membership? s = none ∧ presence? s = none)) :
      pattern? s = none := by
    by_contra like
    obtain ⟨⟨field, source⟩, read⟩ := Option.ne_none_iff_exists'.mp like
    exact shape (shapes_of_pattern? read)
  cases isLeaf_of_leafFilter compiled with
  | pattern read => simp [read, Filter.patterns]
  | compare noPattern => simp [noPattern, Filter.patterns]
  | range read | isIn read | notIn read | present read =>
    simp [other (by simp [read]), Filter.patterns]

/-- The patterns of the conditions that a text is cut into. -/
def patternsIn (text : String) : List String :=
  (pieceTexts text.toList).flatMap fun piece =>
    (pattern? piece).toList.map fun read => String.ofList read.2

theorem mem_patternsIn {text source : String} : source ∈ patternsIn text ↔
    ∃ piece ∈ pieceTexts text.toList, ∃ field, pattern? piece = some (field, source.toList) := by
  simp only [patternsIn, List.mem_flatMap, List.mem_map, Option.mem_toList]
  refine exists_congr fun piece => and_congr_right fun _ => ?_
  constructor
  · rintro ⟨⟨field, _⟩, read, rfl⟩
    exact ⟨field, by rw [read, String.toList_ofList]⟩
  · rintro ⟨field, read⟩
    exact ⟨_, read, String.ofList_toList⟩

theorem patternsOf_pieces {pieces : List (List Char)} {filters : List Filter}
    (compiled : pieces.mapM (pieceFilter scope) = .ok filters) :
    Filter.patternsOf filters = (pieces.map trim).flatMap fun piece =>
      (pattern? piece).toList.map fun read => String.ofList read.2 := by
  induction pieces generalizing filters with
  | nil =>
    cases compiled
    rfl
  | cons piece pieces ih =>
    obtain ⟨filter, rest, rfl, first, others⟩ := mapM_pieceFilter_cons compiled
    rw [Filter.patternsOf, patterns_leafFilter (pieceFilter_eq_ok_iff.mp first), ih others,
      List.map_cons, List.flatMap_cons]

/-- The patterns in the filter of a clause are those of its conditions. -/
theorem patterns_compile {text : String} (compiled : compile scope [] text = .ok filter) :
    filter.patterns = patternsIn text := by
  rw [compile_nil] at compiled
  rw [patternsIn]
  by_cases nothing : trim text.toList = []
  · have cut : cutConditions [] = .ok ⟨[], []⟩ := by simp [cutConditions, cutFrom]
    rw [compileText, nothing] at compiled
    cases compiled
    rw [pieceTexts, nothing, cut]
    rfl
  · obtain ⟨pieces, filters, cut, mapped, joined⟩ := compileText_eq_ok compiled nothing
    rw [pieceTexts, cut, ← patternsOf_pieces mapped]
    rcases joined with single | any | all
    · rw [single, Filter.patternsOf, Filter.patternsOf, List.append_nil]
    · rw [any, Filter.patterns]
    · rw [all, Filter.patterns]

/-! ## Wildcards -/

/-- A pattern that begins and ends with a wildcard, and is not one wildcard alone. -/
def IsInner (source : List Char) : Prop :=
  2 ≤ source.length ∧ source.head? = some '%' ∧ source.getLast? = some '%'

instance (source : List Char) : Decidable (IsInner source) :=
  inferInstanceAs (Decidable (_ ∧ _ ∧ _))

theorem isInner_iff : IsInner source ↔ ∃ rest, source = '%' :: rest ∧ rest.getLast? = some '%' := by
  constructor
  · rintro ⟨long, first, last⟩
    cases source with
    | nil => cases first
    | cons c rest =>
      cases first
      cases rest with
      | nil => simp at long
      | cons d rest => exact ⟨d :: rest, rfl, by rwa [List.getLast?_cons_cons] at last⟩
  · rintro ⟨rest, rfl, last⟩
    cases rest with
    | nil => cases last
    | cons d rest => exact ⟨by simp, rfl, by rwa [List.getLast?_cons_cons]⟩

/-- A condition with a pattern between wildcards that the check does not see: it is in double quotes,
or there is a single quote in it and no wildcard in front of the first one. -/
def IsOverlooked (s : List Char) : Prop :=
  ∃ field source, pattern? s = some (field, source) ∧ IsInner source ∧
    (s.getLast? = some '\'' → ¬ IsInner (source.takeWhile (· != '\'')))

/-- Any other condition with a pattern between wildcards holds the words that the check looks for. -/
theorem innerPattern_of_pattern? (read : pattern? s = some (field, source))
    (last : s.getLast? = some '\'') (inner : IsInner (source.takeWhile (· != '\''))) :
    ∃ like, IsPart like s ∧ (innerPattern? like).isSome = true := by
  obtain ⟨behind, gap, b, like, quoted, rfl, rfl, blank, -, -, keyword, -, either⟩ :=
    pattern?_eq_some read
  refine ⟨like, ⟨b, isWordChar_of_isBlank blank, field ++ gap, [], by simp⟩, ?_⟩
  obtain ⟨rest, spelled, space⟩ := Option.bind_eq_some_iff.mp keyword
  obtain ⟨p, rfl, -⟩ := letters?_eq_some spelled
  obtain ⟨inFront, blankBefore, rfl, -⟩ := blanks?_eq_some space
  have some_ : quoted ≠ [] := by rcases either with rfl | rfl <;> simp
  have parts : field ++ (gap ++ b :: (p ++ (inFront ++ blankBefore :: quoted))) =
      (field ++ (gap ++ b :: (p ++ (inFront ++ [blankBefore])))) ++ quoted := by simp
  rw [parts, List.getLast?_append_of_ne_nil _ some_] at last
  have single : quoted = '\'' :: (source ++ ['\'']) := by
    refine either.resolve_right ?_
    rintro rfl
    rw [← List.cons_append, List.getLast?_concat] at last
    cases last
  obtain ⟨body, found, wildcard⟩ := isInner_iff.mp inner
  obtain ⟨more, rfl, same⟩ : ∃ more, source = '%' :: more ∧ more.takeWhile (· != '\'') = body := by
    cases source with
    | nil => cases found
    | cons c more =>
      rw [List.takeWhile_cons] at found
      split at found
      · cases found
        exact ⟨more, rfl, rfl⟩
      · cases found
  have ends : innerPatternEnd? (more ++ ['\'']) = some () := by
    by_cases another : '\'' ∈ more
    · -- the check takes the first single quote for the end
      obtain ⟨first, rest, rfl, unquoted⟩ := List.eq_append_cons_of_mem another
      rw [List.takeWhile_append_of_pos (bne_of_notMem unquoted)] at same
      have isBody : first = body := by simpa using same
      rw [List.append_assoc, List.cons_append, innerPatternEnd?_append unquoted,
        if_pos (isBody ▸ wildcard)]
    · rw [List.takeWhile_eq_self_iff.mpr (bne_of_notMem another)] at same
      rw [innerPatternEnd?_append another, if_pos (same ▸ wildcard)]
  subst single
  have reads : innerPattern? (p ++ (inFront ++ blankBefore :: '\'' :: ('%' :: more ++ ['\'']))) =
      innerPatternEnd? (more ++ ['\'']) := by
    simp only [innerPattern?, bind, spelled, Option.bind_some, space]
    rfl
  rw [reads, ends, Option.isSome_some]

/-- In a text where the check finds nothing, only overlooked conditions have a pattern between
wildcards. -/
theorem overlooked_of_mem_patternsIn (nothing : occurs innerPattern? s = false) {text : String}
    (inside : text.toList <:+: s) {source : String} (member : source ∈ patternsIn text)
    (inner : IsInner source.toList) : ∃ piece ∈ pieceTexts text.toList, IsOverlooked piece := by
  obtain ⟨piece, listed, field, read⟩ := mem_patternsIn.mp member
  refine ⟨piece, listed, field, source.toList, read, inner, fun last seen => ?_⟩
  obtain ⟨like, part, found⟩ := innerPattern_of_pattern? read last seen
  have behind := part.of_isInfix ((isInfix_of_mem_pieceTexts listed).trans inside)
  have occurs_ := occurs_of_isPart isPhrase_innerPattern?.readsOn behind found
  rw [nothing] at occurs_
  cases occurs_

theorem mem_patternsIn_of_overlooked {text : String} (listed : piece ∈ pieceTexts text.toList)
    (overlooked : IsOverlooked piece) : ∃ source ∈ patternsIn text, IsInner source.toList := by
  obtain ⟨field, source, read, inner, -⟩ := overlooked
  refine ⟨String.ofList source, mem_patternsIn.mpr ⟨piece, listed, field, ?_⟩, ?_⟩
  · rw [String.toList_ofList, read]
  · rwa [String.toList_ofList]

end Condition

/-- One of the patterns in a filter stands between wildcards. -/
def Filter.HasInnerPattern (filter : Filter) : Prop :=
  ∃ source ∈ filter.patterns, Condition.IsInner source.toList

end DocQuery
