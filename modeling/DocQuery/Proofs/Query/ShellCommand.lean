import DocQuery.Execute.Run
import DocQuery.Proofs.Execute.LeadingKeys
import DocQuery.Proofs.Json.UniqueText
import DocQuery.Proofs.Query.WrittenFilter
import DocQuery.Proofs.Value.NamedEntries
import DocQuery.Query.Find
import DocQuery.Statement.Select

/-! # What a shell command tells

The command of a find query has the filter, the projection, the offset and the limit of the query.
Of its order there is only the last direction of each name: a sort document is a map from names to
directions, in the order of the names, and nothing is left in it of the order in which the keys were
given. So queries with the same command may sort differently. Nothing else is lost, as long as only
equal operands are written alike.

* `SortKeys.directions` — what a sort document says.
* `SortKeys.alike_toJson_iff` — sort documents are alike exactly if they say the same.
* `SortKeys.eq_of_directions` — the keys, given the order of their names.
* `FindQuery.shell_eq_iff` — queries with one command.
* `FindQuery.run_congr` — queries with one result.
* `FindQuery.IsBuilt` — queries that are built for a SELECT.
-/

namespace DocQuery

open DocQuery.Json DocQuery.Number

/-- No two conversions are written with one operator. -/
theorem CastTarget.operator_injective : Function.Injective operator := by
  intro target other same
  cases target <;> cases other <;> first | rfl | exact absurd same (by decide)

namespace SortKey

/-- The key of a given name, with a conversion and a direction. -/
def named (name : String) (parts : Option CastTarget × Bool) : SortKey := ⟨name, parts.1, parts.2⟩

theorem alike_direction_iff (key other : SortKey) :
    key.direction.alike other.direction = true ↔ key.descending = other.descending := by
  unfold direction
  cases key.descending <;> cases other.descending <;> decide

/-- A key of a given name is known from its part of the sort document. -/
theorem alike_toJson_iff (name : String) (x y : Option CastTarget × Bool) :
    (named name x).toJson.alike (named name y).toJson = true ↔ x = y := by
  have directions := alike_direction_iff (named name x) (named name y)
  obtain ⟨cast, descending⟩ := x
  obtain ⟨otherCast, otherDescending⟩ := y
  cases cast <;> cases otherCast
  case none.none =>
    rw [Prod.mk.injEq, and_iff_right rfl]
    exact directions
  case some.some target other =>
    rw [Prod.mk.injEq, Option.some.injEq, ← CastTarget.operator_injective.eq_iff]
    simp only [named] at directions
    simp [named, toJson, alike, alikeMembers, single, directions]
  all_goals simp [named, toJson, direction, alike]

end SortKey

namespace SortKeys

variable {keys others : SortKeys}

/-- The conversion and the direction of each name; the last key of a name counts. -/
def directions (keys : SortKeys) : Named (Option CastTarget × Bool) :=
  Named.ofList (keys.map fun key => (key.field, key.cast, key.descending))

/-- A sort document has the directions, and nothing else. -/
theorem toJson_eq (keys : SortKeys) : toJson keys =
    .object (keys.directions.map fun entry => (entry.1, (SortKey.named entry.1 entry.2).toJson)) := by
  rw [directions, Named.map_ofList fun name parts => (SortKey.named name parts).toJson, List.map_map]
  rfl

theorem alike_toJson_iff (keys others : SortKeys) :
    (toJson keys).alike (toJson others) = true ↔ keys.directions = others.directions := by
  rw [toJson_eq, toJson_eq, alike]
  exact alikeMembers_map_iff (fun name parts => (SortKey.named name parts).toJson)
    SortKey.alike_toJson_iff _ _

/-- A key whose name no other key has is found by its name. -/
theorem get?_directions (different : (keys.map SortKey.field).Nodup) {key : SortKey}
    (member : key ∈ keys) :
    Named.get? key.field keys.directions = some (key.cast, key.descending) := by
  refine Named.get?_ofList_of_mem ?_ (List.mem_map_of_mem member)
  rw [List.map_map]
  exact different

theorem map_named_directions (different : (keys.map SortKey.field).Nodup) :
    (keys.map SortKey.field).map (fun name =>
      SortKey.named name ((Named.get? name keys.directions).getD (none, false))) = keys := by
  rw [List.map_map]
  refine List.map_congr_left (g := id) (fun key member => ?_) |>.trans (List.map_id keys)
  simp [SortKey.named, get?_directions different member]

/-- Keys with different names are known from the directions and the order of the names. -/
theorem eq_of_directions (different : (keys.map SortKey.field).Nodup)
    (names : keys.map SortKey.field = others.map SortKey.field)
    (same : keys.directions = others.directions) : keys = others := by
  rw [← map_named_directions different, names, same, map_named_directions (names ▸ different)]

end SortKeys

namespace Projection

theorem alike_toJson_iff (p q : Projection) :
    p.toJson.alike q.toJson = true ↔ p.fields = q.fields := by
  refine alikeMembers_map_iff (fun _ (flag : Bool) => .integer (if flag then 1 else 0)) ?_ _ _
  intro name x y
  cases x <;> cases y <;> simp [alike]

end Projection

/-! ## Texts of commands -/

namespace Json

variable {members others : List (String × Json)} {r s : List Char}

/-- An object is known, up to its doubles, from its text with anything behind it. -/
theorem alike_object_of_append
    (same : (object members).text.toList ++ r = (object others).text.toList ++ s) :
    (object members).alike (object others) = true ∧ r = s := by
  rcases object_append_cases same with
    ⟨rfl, rfl, behind⟩ | ⟨name, a, as, b, bs, rfl, rfl, rest⟩
  · exact ⟨rfl, behind⟩
  · obtain ⟨first, later⟩ := alike_of_append (ends_listed rfl _ r) (ends_listed rfl _ s) rest
    obtain ⟨members, behind⟩ := alikeMembers_of_append later
    exact ⟨by rw [alike, alikeMembers, first, members]; simp, behind⟩

end Json

theorem isDigit_of_mem_natText {n : Nat} : ∀ c ∈ (toString n).toList, c.isDigit = true := by
  intro c member
  rw [Nat.toString_eq_repr, Nat.toList_repr] at member
  exact isDigit_of_mem_toDigits member

/-- A number is known from its digits with something else behind them. -/
theorem natText_append_inj {m n : Nat} {close : Char} {r s : List Char}
    (notDigit : close.isDigit = false)
    (same : (toString m).toList ++ close :: r = (toString n).toList ++ close :: s) :
    m = n ∧ r = s := by
  have cut (k : Nat) (behind : List Char) :
      ((toString k).toList ++ close :: behind).takeWhile Char.isDigit = (toString k).toList := by
    rw [List.takeWhile_append_of_pos isDigit_of_mem_natText, List.takeWhile_cons, notDigit]
    exact List.append_nil _
  have digits := cut m r
  rw [same, cut n s] at digits
  rw [digits] at same
  rw [Nat.toString_eq_repr, Nat.toString_eq_repr, Nat.toList_repr, Nat.toList_repr] at digits
  exact ⟨(toDigits_injective digits).symm, (List.cons.inj (List.append_cancel_left same)).2⟩

theorem Filter.exists_members (f : Filter) : ∃ members, f.toJson = .object members := by
  cases f <;> exact ⟨_, rfl⟩

namespace FindQuery

variable {q q' : FindQuery} {r s : List Char}

/-- A further call on what is found, if it has an argument. -/
def call (name : String) : Option String → String
  | some argument => "." ++ name ++ "(" ++ argument ++ ")"
  | none => ""

/-- The flags of the projection; without a projection there are none. -/
def projected (q : FindQuery) : Named Bool := (q.projection.map (·.fields)).getD []

/-- Where in the command the parts of a query stand. -/
theorem shell_eq (q : FindQuery) (collection : String) : (q.shell collection).toList =
    ("db." ++ collection ++ ".find(").toList ++ (q.filter.toJson.text.toList ++ (", ".toList ++
      ((Projection.mk q.projected).toJson.text.toList ++ (')' ::
        ((call "sort" (q.sort.map fun keys => (SortKeys.toJson keys).text)).toList ++
          ((call "skip" (q.skip.map toString)).toList ++
            (call "limit" (q.limit.map toString)).toList)))))) := by
  obtain ⟨filter, projection, sort, skip, limit⟩ := q
  cases projection <;> cases sort <;> cases skip <;> cases limit <;>
    simp [shell, call, projected, Filter.text, Projection.toJson]

/-- A call is known where its argument is, and nothing behind it looks like the call. -/
theorem call_append_inj {α β : Type} {name : String} {write : α → String} {read : α → β}
    {x y : Option α} (notR : ¬ ("." ++ name ++ "(").toList <+: r)
    (notS : ¬ ("." ++ name ++ "(").toList <+: s)
    (cut : ∀ a b, (write a).toList ++ ')' :: r = (write b).toList ++ ')' :: s →
      read a = read b ∧ r = s)
    (same : (call name (x.map write)).toList ++ r = (call name (y.map write)).toList ++ s) :
    x.map read = y.map read ∧ r = s := by
  have called (argument : String) (behind : List Char) : (call name (some argument)).toList ++ behind =
      ("." ++ name ++ "(").toList ++ (argument.toList ++ ')' :: behind) := by
    simp [call]
  have uncalled (behind : List Char) : (call name none).toList ++ behind = behind := rfl
  cases x <;> cases y <;> simp only [Option.map_some, Option.map_none, called, uncalled] at same
  case none.none => exact ⟨rfl, same⟩
  case none.some => exact absurd (same ▸ List.prefix_append _ _) notR
  case some.none => exact absurd (same ▸ List.prefix_append _ _) notS
  case some.some a b =>
    obtain ⟨parts, behind⟩ := cut a b (List.append_cancel_left same)
    exact ⟨by rw [Option.map_some, Option.map_some, parts], behind⟩

/-- The directions are known from a sort document with anything behind it. -/
theorem directions_of_append {keys others : SortKeys}
    (same : (SortKeys.toJson keys).text.toList ++ r = (SortKeys.toJson others).text.toList ++ s) :
    keys.directions = others.directions ∧ r = s := by
  obtain ⟨alike, behind⟩ := alike_object_of_append same
  exact ⟨(SortKeys.alike_toJson_iff keys others).mp alike, behind⟩

theorem count_append_inj {name : String} {x y : Option Nat}
    (notR : ¬ ("." ++ name ++ "(").toList <+: r) (notS : ¬ ("." ++ name ++ "(").toList <+: s)
    (same : (call name (x.map toString)).toList ++ r = (call name (y.map toString)).toList ++ s) :
    x = y ∧ r = s := by
  have cut (m n : Nat) (texts : (toString m).toList ++ ')' :: r = (toString n).toList ++ ')' :: s) :
      id m = id n ∧ r = s := natText_append_inj rfl texts
  simpa using call_append_inj notR notS cut same

/-- No call of an offset or a limit looks like one of an order. -/
theorem not_isPrefix_sort (skip limit : Option String) :
    ¬ ("." ++ "sort" ++ "(").toList <+: (call "skip" skip).toList ++ (call "limit" limit).toList := by
  cases skip <;> cases limit <;> simp [call]

theorem not_isPrefix_skip (limit : Option String) :
    ¬ ("." ++ "skip" ++ "(").toList <+: (call "limit" limit).toList := by
  cases limit <;> simp [call]

/-! ## One command -/

/-- Two queries with readable filters have one command exactly if their filters are alike and their
other parts agree, up to the order of the sort keys. -/
theorem shell_eq_iff (one : q.filter.isReadable = true) (other : q'.filter.isReadable = true)
    (collection : String) : q.shell collection = q'.shell collection ↔
      q.filter.alike q'.filter = true ∧ q.projected = q'.projected ∧
        q.sort.map SortKeys.directions = q'.sort.map SortKeys.directions ∧
        q.skip = q'.skip ∧ q.limit = q'.limit := by
  rw [← String.toList_inj, shell_eq, shell_eq, List.append_cancel_left_eq]
  constructor
  · intro same
    obtain ⟨members, filter⟩ := Filter.exists_members q.filter
    obtain ⟨members', filter'⟩ := Filter.exists_members q'.filter
    rw [filter, filter'] at same
    obtain ⟨alike, rest⟩ := alike_object_of_append same
    obtain ⟨projections, rest⟩ := alike_object_of_append (List.append_cancel_left rest)
    obtain ⟨sorts, rest⟩ := call_append_inj (not_isPrefix_sort _ _) (not_isPrefix_sort _ _)
      (fun _ _ texts => (directions_of_append texts).imp_right fun same => (List.cons.inj same).2)
      (List.cons.inj rest).2
    obtain ⟨skips, rest⟩ := count_append_inj (not_isPrefix_skip _) (not_isPrefix_skip _) rest
    obtain ⟨limits, -⟩ := count_append_inj (x := q.limit) (y := q'.limit) (r := []) (s := [])
      (by simp) (by simp) (by rw [rest])
    rw [← filter, ← filter', Filter.alike_toJson one other] at alike
    exact ⟨alike, (Projection.alike_toJson_iff _ _).mp projections, sorts, skips, limits⟩
  · rintro ⟨alike, projections, sorts, skips, limits⟩
    rw [← Filter.alike_toJson one other] at alike
    have texts : q.sort.map (fun keys => (SortKeys.toJson keys).text) =
        q'.sort.map fun keys => (SortKeys.toJson keys).text := by
      revert sorts
      cases q.sort <;> cases q'.sort <;> simp only [Option.map_some, Option.map_none, reduceCtorEq,
        Option.some.injEq, imp_self]
      exact fun same => text_of_alike ((SortKeys.alike_toJson_iff _ _).mpr same)
    rw [text_of_alike alike, projections, texts, skips, limits]

/-! ## One result -/

theorem apply_of_no_fields (doc : Document) : (Projection.mk []).apply doc = doc := by
  simp [Projection.apply, Projection.isInclusion, Projection.keeps]

/-- The parts of a query, one after the other. -/
theorem run_eq (q : FindQuery) (docs : List Document) :
    q.run docs = (q.filter.select docs).map fun selected =>
      (window q.skip q.limit (q.sort.elim selected (sortDocuments · selected))).map
        (Projection.mk q.projected).apply := by
  rw [run]
  cases q.filter.select docs with
  | error e => rfl
  | ok selected =>
    obtain ⟨filter, projection, sort, skip, limit⟩ := q
    cases sort <;> cases projection
    case none.some | some.some => rfl
    -- without flags nothing is left out, with or without a projection
    all_goals
      simp only [bind, Except.bind, pure, Except.pure, Except.map, projected, Option.map_none,
        Option.getD_none, List.map_id'' apply_of_no_fields]
      rfl

/-- Queries whose filters have one test, and whose other parts agree up to the leading sort keys,
have one result. -/
theorem run_congr (tests : ∀ doc, q.filter.test doc = q'.filter.test doc)
    (projections : q.projected = q'.projected)
    (sorts : q.sort.map SortKeys.leading = q'.sort.map SortKeys.leading) (skips : q.skip = q'.skip)
    (limits : q.limit = q'.limit) (docs : List Document) : q.run docs = q'.run docs := by
  have sorted (selected : List Document) : q.sort.elim selected (sortDocuments · selected) =
      q'.sort.elim selected (sortDocuments · selected) := by
    revert sorts
    cases q.sort <;> cases q'.sort <;> simp only [Option.map_some, Option.map_none, reduceCtorEq,
      Option.some.injEq, Option.elim_some, Option.elim_none, imp_self, IsEmpty.forall_iff]
    intro leading
    rw [← sortDocuments_leading, leading, sortDocuments_leading]
  rw [run_eq, run_eq, Filter.select_congr tests, projections, skips, limits]
  simp only [sorted]

/-! ## Queries of statements -/

/-- Whether a query is built for a SELECT, with some parameters and inner values of its EXISTS
clause. -/
inductive IsBuilt : FindQuery → Prop
  | of {plan : SelectPlan} {params : Parameters} {values : List Value} {filter : Filter}
      {q : FindQuery} (selected : plan.selectFilter params values = .ok filter)
      (found : plan.findQuery filter = .ok q) : IsBuilt q

theorem filter_of_findQuery {plan : SelectPlan} {filter : Filter}
    (found : plan.findQuery filter = .ok q) : q.filter = filter := by
  unfold SelectPlan.findQuery at found
  cases order : plan.order id <;> rw [order] at found <;> cases found
  rfl

theorem IsBuilt.isReadable (built : q.IsBuilt) : q.filter.isReadable = true := by
  cases built with
  | of selected found =>
    rw [filter_of_findQuery found]
    exact SelectPlan.isReadable_selectFilter selected

/-- The command of a query tells its filter up to operands that are written alike, its projection,
its offset, its limit, and the last direction of each name that it sorts by. This decides the result
where only equal values are written like the operands, and where the leading sort keys are known; and
the keys are, if their names are different and their order is known. -/
theorem shell_determines_unordered_query (built : q.IsBuilt) (builtToo : q'.IsBuilt)
    (collection : String) :
    (q.shell collection = q'.shell collection ↔
      q.filter.alike q'.filter = true ∧ q.projected = q'.projected ∧
        q.sort.map SortKeys.directions = q'.sort.map SortKeys.directions ∧
        q.skip = q'.skip ∧ q.limit = q'.limit) ∧
    (q.shell collection = q'.shell collection → q.filter.isPlain = true → q'.filter.isPlain = true →
      q.sort.map SortKeys.leading = q'.sort.map SortKeys.leading →
        ∀ docs, q.run docs = q'.run docs) ∧
    (q.shell collection = q'.shell collection →
      (∀ keys ∈ q.sort, (keys.map SortKey.field).Nodup) →
      q.sort.map (·.map SortKey.field) = q'.sort.map (·.map SortKey.field) → q.sort = q'.sort) := by
  have parts := shell_eq_iff built.isReadable builtToo.isReadable collection
  refine ⟨parts, fun same plain plainToo leading docs => ?_, fun same different names => ?_⟩
  · obtain ⟨alike, projections, -, skips, limits⟩ := parts.mp same
    exact run_congr (Filter.test_congr alike plain plainToo) projections leading skips limits docs
  · obtain ⟨-, -, directions, -, -⟩ := parts.mp same
    revert different names directions
    cases q.sort <;> cases q'.sort <;> simp only [Option.map_some, Option.map_none, reduceCtorEq,
      Option.some.injEq, Option.mem_def, forall_eq', imp_self, IsEmpty.forall_iff, implies_true]
    exact SortKeys.eq_of_directions

/-- Integers of two widths and a repeated sort key: the queries differ, but not in their command, and
not in their results. -/
theorem shell_determines_unordered_query_repeated_key :
    let clause : ExistsClause := ⟨false, "u", "b", "c", "t", "n"⟩
    let plan : SelectPlan :=
      ⟨"t", ["a"], none, some "b DESC, a", none, none, false, none, none, some clause⟩
    let plan' := { plan with orderBy := some "b DESC, a, b DESC" }
    ∃ q q', plan.selectFilter [] [.int32 1] >>= plan.findQuery = .ok q ∧
      plan'.selectFilter [] [.int64 1] >>= plan'.findQuery = .ok q' ∧
      q.sort ≠ q'.sort ∧ q.shell "t" = q'.shell "t" ∧ ∀ docs, q.run docs = q'.run docs := by
  intro clause plan plan'
  have built : plan.findQuery (.isIn "n" [.int32 1]) = .ok ⟨.isIn "n" [.int32 1],
      some ⟨[("a", true)]⟩, some [⟨"b", none, true⟩, ⟨"a", none, false⟩], none, none⟩ := by rfl
  have builtToo : plan'.findQuery (.isIn "n" [.int64 1]) = .ok ⟨.isIn "n" [.int64 1],
      some ⟨[("a", true)]⟩, some [⟨"b", none, true⟩, ⟨"a", none, false⟩, ⟨"b", none, true⟩],
      none, none⟩ := by rfl
  have selected : plan.selectFilter [] [.int32 1] = .ok (.isIn "n" [.int32 1]) := by rfl
  have selectedToo : plan'.selectFilter [] [.int64 1] = .ok (.isIn "n" [.int64 1]) := by rfl
  have determined := shell_determines_unordered_query (.of selected built)
    (.of selectedToo builtToo) "t"
  have same := determined.1.mpr ⟨by decide, rfl, by decide, rfl, rfl⟩
  exact ⟨_, _, built, builtToo, by decide, same, determined.2.1 same rfl rfl (by decide)⟩

/-! ## Queries with one command and different results -/

/-- The query for all documents in an order. -/
def inOrder (keys : SortKeys) : FindQuery := ⟨.empty, none, some keys, none, none⟩

theorem select_empty (docs : List Document) : Filter.empty.select docs = .ok docs := by
  induction docs with
  | nil => rfl
  | cons doc rest ih => simp [Filter.select, Filter.test, ih, bind, Except.bind]

theorem run_inOrder (keys : SortKeys) (docs : List Document) :
    (inOrder keys).run docs = .ok (sortDocuments keys docs) := by
  rw [run_eq, inOrder, select_empty]
  exact congrArg Except.ok (List.map_id'' apply_of_no_fields _)

/-- Orders by columns, without anything else, have one result for all documents exactly if their
leading keys agree. The command does not tell that. -/
theorem run_inOrder_eq_iff {keys others : SortKeys} (columns : ∀ key ∈ keys, key.IsColumn)
    (otherColumns : ∀ key ∈ others, key.IsColumn) :
    (∀ docs, (inOrder keys).run docs = (inOrder others).run docs) ↔
      keys.leading = others.leading := by
  rw [← sortDocuments_eq_iff columns otherColumns]
  simp only [run_inOrder, Except.ok.injEq]

/-- The query for the documents with a given instant. -/
def atInstant (t : Time.Instant) : FindQuery := ⟨.isIn "d" [.instant t], none, none, none, none⟩

/-- Two instants in one millisecond. -/
def early : Time.Instant := ⟨⟨2024, 3, 1, by decide⟩, 45000, 1, by decide⟩

def late : Time.Instant := ⟨⟨2024, 3, 1, by decide⟩, 45000, 2, by decide⟩

/-- The order of two sort keys, and what is below a millisecond in an operand, cannot be read off the
command. -/
theorem one_command_of_different_queries :
    (∃ plan plan' q q', extractSelect "SELECT * FROM t ORDER BY b, a" = .ok plan ∧
      extractSelect "SELECT * FROM t ORDER BY a, b" = .ok plan' ∧
      plan.selectFilter [] [] >>= plan.findQuery = .ok q ∧
      plan'.selectFilter [] [] >>= plan'.findQuery = .ok q' ∧
      q.shell "t" = q'.shell "t" ∧ ∃ docs, q.run docs ≠ q'.run docs) ∧
    (∃ plan q q', extractSelect
        "SELECT * FROM t WHERE EXISTS (SELECT a FROM u WHERE d = t.d)" = .ok plan ∧
      plan.selectFilter [] [.instant early] >>= plan.findQuery = .ok q ∧
      plan.selectFilter [] [.instant late] >>= plan.findQuery = .ok q' ∧
      q.shell "t" = q'.shell "t" ∧ ∃ docs, q.run docs ≠ q'.run docs) := by
  -- letters stand for the texts, since the kernel takes long to decode a long text
  constructor
  · have extracted : extractSelect "SELECT * FROM t ORDER BY b, a" =
        .ok ⟨"t", ["*"], none, some "b, a", none, none, false, none, none, none⟩ := by
      have letters : "SELECT * FROM t ORDER BY b, a".toList = _ := String.toList_ofList
      rw [extractSelect, letters]
      rfl
    have extractedToo : extractSelect "SELECT * FROM t ORDER BY a, b" =
        .ok ⟨"t", ["*"], none, some "a, b", none, none, false, none, none, none⟩ := by
      have letters : "SELECT * FROM t ORDER BY a, b".toList = _ := String.toList_ofList
      rw [extractSelect, letters]
      rfl
    refine ⟨_, _, inOrder [⟨"b", none, false⟩, ⟨"a", none, false⟩],
      inOrder [⟨"a", none, false⟩, ⟨"b", none, false⟩], extracted, extractedToo, by rfl, by rfl,
      by rfl, [⟨[("a", .int64 1), ("b", .int64 2)]⟩, ⟨[("a", .int64 2), ("b", .int64 1)]⟩], ?_⟩
    rw [run_inOrder, run_inOrder, sortDocuments_pair, sortDocuments_pair,
      if_pos (by decide), if_neg (by decide)]
    simp
  · have extracted : extractSelect "SELECT * FROM t WHERE EXISTS (SELECT a FROM u WHERE d = t.d)" =
        .ok ⟨"t", ["*"], none, none, none, none, false, none, none,
          some ⟨false, "u", "a", "d", "t", "d"⟩⟩ := by
      have letters : "SELECT * FROM t WHERE EXISTS (SELECT a FROM u WHERE d = t.d)".toList = _ :=
        String.toList_ofList
      rw [extractSelect, letters]
      rfl
    have found : (atInstant early).run [⟨[("d", .instant early)]⟩] =
        .ok [⟨[("d", .instant early)]⟩] := by rfl
    have missed : (atInstant late).run [⟨[("d", .instant early)]⟩] = .ok [] := by rfl
    refine ⟨_, atInstant early, atInstant late, extracted, by rfl, by rfl, by rfl,
      [⟨[("d", .instant early)]⟩], ?_⟩
    rw [found, missed]
    simp

end FindQuery

end DocQuery
