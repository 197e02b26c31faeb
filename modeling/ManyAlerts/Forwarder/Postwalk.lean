import ManyAlerts.Forwarder.PrescanDepth

/-!
# The walk over a parsed document

`_postwalk` checks and rebuilds a parsed document without recursion: it keeps a stack
of work and a list of results, and a marker on the stack gathers the results of a
container once its parts are done.  `postwalkLoop` is that machine.  `walk` is the
recursion over the tree that it computes, and `rebuild` the value without the checks.
A document is refused exactly when some part of it offends where it stands.

Numbers are of any type, since the walk passes over them: integers in one mode of
`parse_json` and lexemes with a scale in the other.
-/

namespace ManyAlerts

/-- What the walk returns: lists have become tuples. -/
inductive SafeJson (ν : Type) where
  | null
  | bool (value : Bool)
  | number (value : ν)
  | str (points : List Nat)
  | tuple (items : List (SafeJson ν))
  | dict (members : List (List Nat × SafeJson ν))

/-- An entry of the stack. -/
inductive WalkItem (ν : Type) where
  | value (tree : JsonTree ν) (depth : Nat)
  | dict (keys : List (List Nat))
  | list (count : Nat)

variable {ν : Type}

/-- `_check_string`. -/
def checkWalked (options : ParseOptions) (points : List Nat) : Except JsonReadCode Unit := do
  let _ ← checkPoints options points
  return ()

/-- The last results leave the list and come back as one. -/
def gather (count : Nat) (make : List (SafeJson ν) → SafeJson ν) (results : List (SafeJson ν)) :
    List (SafeJson ν) :=
  results.take (results.length - count) ++ [make (results.drop (results.length - count))]

/-- One turn of the loop.  The stack has its top first, so that the parts of a
container, which are pushed in reverse, stand in their own order before its marker. -/
def walkStep (options : ParseOptions) (work : List (WalkItem ν)) (results : List (SafeJson ν)) :
    WalkItem ν → Except JsonReadCode (List (WalkItem ν) × List (SafeJson ν))
  | .value (.object members) depth => do
      failIf (maxJsonDepth < depth) .depth
      (members.map Prod.fst).forM (checkWalked options)
      return (members.map (fun member => .value member.2 (depth + 1)) ++
        .dict (members.map Prod.fst) :: work, results)
  | .value (.array items) depth => do
      failIf (maxJsonDepth < depth) .depth
      failIf (maxJsonArrayItems < items.length) .arrayTooLong
      return (items.map (fun item => .value item (depth + 1)) ++ .list items.length :: work,
        results)
  | .value (.text points) _ => do
      checkWalked options points
      return (work, results ++ [.str points])
  | .value .null _ => return (work, results ++ [.null])
  | .value (.bool value) _ => return (work, results ++ [.bool value])
  | .value (.number value) _ => return (work, results ++ [.number value])
  | .dict keys => return (work, gather keys.length (fun values => .dict (keys.zip values)) results)
  | .list count => return (work, gather count .tuple results)

/-- `_postwalk` from a stack and a list of results, for some number of turns. -/
def postwalkLoop (options : ParseOptions) :
    Nat → List (WalkItem ν) → List (SafeJson ν) → Option (Except JsonReadCode (SafeJson ν))
  | 0, _, _ => none
  | _ + 1, [], results => results.head?.map .ok
  | fuel + 1, item :: work, results =>
      match walkStep options work results item with
      | .error code => some (.error code)
      | .ok (work, results) => postwalkLoop options fuel work results

mutual

/-- The recursion over the tree that the loop computes. -/
def walk (options : ParseOptions) (depth : Nat) : JsonTree ν → Except JsonReadCode (SafeJson ν)
  | .null => .ok .null
  | .bool value => .ok (.bool value)
  | .number value => .ok (.number value)
  | .text points => do
      checkWalked options points
      return .str points
  | .array items => do
      failIf (maxJsonDepth < depth) .depth
      failIf (maxJsonArrayItems < items.length) .arrayTooLong
      let items ← walkItems options (depth + 1) items
      return .tuple items
  | .object members => do
      failIf (maxJsonDepth < depth) .depth
      (members.map Prod.fst).forM (checkWalked options)
      let values ← walkMembers options (depth + 1) members
      return .dict ((members.map Prod.fst).zip values)

def walkItems (options : ParseOptions) (depth : Nat) :
    List (JsonTree ν) → Except JsonReadCode (List (SafeJson ν))
  | [] => .ok []
  | item :: items => do
      let item ← walk options depth item
      let items ← walkItems options depth items
      return item :: items

def walkMembers (options : ParseOptions) (depth : Nat) :
    List (List Nat × JsonTree ν) → Except JsonReadCode (List (SafeJson ν))
  | [] => .ok []
  | (_, value) :: members => do
      let value ← walk options depth value
      let values ← walkMembers options depth members
      return value :: values

end

/-! ## The loop computes the recursion -/

theorem length_walkItems {options : ParseOptions} {depth : Nat} {items : List (JsonTree ν)}
    {values : List (SafeJson ν)} (walked : walkItems options depth items = .ok values) :
    values.length = items.length := by
  induction items generalizing values with
  | nil =>
      cases walked
      rfl
  | cons item items induction =>
      simp only [walkItems, bind_eq_ok, pure_eq_ok] at walked
      obtain ⟨value, _, values, walked, rfl⟩ := walked
      rw [List.length_cons, List.length_cons, induction walked]

theorem length_walkMembers {options : ParseOptions} {depth : Nat}
    {members : List (List Nat × JsonTree ν)} {values : List (SafeJson ν)}
    (walked : walkMembers options depth members = .ok values) :
    values.length = members.length := by
  induction members generalizing values with
  | nil =>
      cases walked
      rfl
  | cons member members induction =>
      obtain ⟨key, value⟩ := member
      simp only [walkMembers, bind_eq_ok, pure_eq_ok] at walked
      obtain ⟨value, _, values, walked, rfl⟩ := walked
      rw [List.length_cons, List.length_cons, induction walked]

theorem gather_append {count : Nat} (make : List (SafeJson ν) → SafeJson ν)
    (results values : List (SafeJson ν)) (long : values.length = count) :
    gather count make (results ++ values) = results ++ [make values] := by
  subst long
  simp [gather]

/-- The loop behind a part of the document: its values join the results, or its failure
is the answer. -/
def resume (options : ParseOptions) (fuel : Nat) (work : List (WalkItem ν))
    (results : List (SafeJson ν)) :
    Except JsonReadCode (List (SafeJson ν)) → Option (Except JsonReadCode (SafeJson ν))
  | .ok values => postwalkLoop options fuel work (results ++ values)
  | .error code => some (.error code)

/-- The loop takes some number of turns for entries of the stack, whatever is below. -/
def Walks (options : ParseOptions) (items : List (WalkItem ν))
    (outcome : Except JsonReadCode (List (SafeJson ν))) : Prop :=
  ∃ rounds, ∀ work results fuel,
    postwalkLoop options (rounds + fuel) (items ++ work) results =
      resume options fuel work results outcome

theorem Walks.nil (options : ParseOptions) : Walks options ([] : List (WalkItem ν)) (.ok []) := by
  refine ⟨0, ?_⟩
  intro work results fuel
  rw [Nat.zero_add, List.nil_append, resume, List.append_nil]

theorem Walks.cons {options : ParseOptions} {item : WalkItem ν} {items : List (WalkItem ν)}
    {outcome : Except JsonReadCode (SafeJson ν)}
    {others : Except JsonReadCode (List (SafeJson ν))}
    (first : Walks options [item] (outcome.map fun value => [value]))
    (rest : Walks options items others) :
    Walks options (item :: items) (do
      let value ← outcome
      let values ← others
      return value :: values) := by
  obtain ⟨firstRounds, first⟩ := first
  obtain ⟨restRounds, rest⟩ := rest
  refine ⟨firstRounds + restRounds, ?_⟩
  intro work results fuel
  rw [add_assoc, ← List.singleton_append, List.append_assoc, first]
  cases outcome with
  | error code => rfl
  | ok value =>
      rw [Except.map, resume, rest]
      cases others with
      | error code => rfl
      | ok values =>
          rw [resume, List.append_assoc]
          rfl

/-- An entry that is done in one turn. -/
theorem Walks.single {options : ParseOptions} {item : WalkItem ν}
    {outcome : Except JsonReadCode (List (SafeJson ν))}
    (step : ∀ work results, walkStep options work results item =
      outcome.map fun values => (work, results ++ values)) : Walks options [item] outcome := by
  refine ⟨1, ?_⟩
  intro work results fuel
  rw [List.singleton_append, add_comm, postwalkLoop, step]
  cases outcome <;> rfl

/-- A container: the checks, its parts, and the marker that gathers them. -/
theorem Walks.container {options : ParseOptions} {tree : JsonTree ν} {depth : Nat}
    (marker : WalkItem ν) (checks : Except JsonReadCode Unit) {parts : List (WalkItem ν)}
    {outcome : Except JsonReadCode (List (SafeJson ν))} {count : Nat}
    {make : List (SafeJson ν) → SafeJson ν}
    (walked : walk options depth tree = do checks; let values ← outcome; return make values)
    (opens : ∀ work results, walkStep options work results (.value tree depth) = do
      checks
      return (parts ++ marker :: work, results))
    (closes : ∀ work results, walkStep options work results marker =
      .ok (work, gather count make results))
    (partsWalk : Walks options parts outcome)
    (long : ∀ values, outcome = .ok values → values.length = count) :
    Walks options [.value tree depth] ((walk options depth tree).map fun value => [value]) := by
  obtain ⟨rounds, partsWalk⟩ := partsWalk
  refine ⟨rounds + 1 + 1, ?_⟩
  intro work results fuel
  have turns : rounds + 1 + 1 + fuel = rounds + (fuel + 1) + 1 := by omega
  rw [turns, List.singleton_append, postwalkLoop, opens, walked]
  cases checks with
  | error code => rfl
  | ok checked =>
      rw [ok_bind, ok_bind]
      dsimp only [pure, Except.pure]
      rw [partsWalk]
      cases outcome with
      | error code => rfl
      | ok values =>
          rw [resume, postwalkLoop, closes]
          dsimp only
          rw [gather_append make results values (long values rfl)]
          rfl

mutual

theorem walks_walk (options : ParseOptions) (depth : Nat) (tree : JsonTree ν) :
    Walks options [.value tree depth] ((walk options depth tree).map fun value => [value]) := by
  match tree with
  | .null => exact Walks.single fun work results => rfl
  | .bool value => exact Walks.single fun work results => rfl
  | .number value => exact Walks.single fun work results => rfl
  | .text points =>
      apply Walks.single
      intro work results
      rw [walkStep, walk]
      cases checkWalked options points <;> rfl
  | .array items =>
      refine Walks.container (.list items.length)
        (do
          failIf (maxJsonDepth < depth) .depth
          failIf (maxJsonArrayItems < items.length) .arrayTooLong)
        ?_ ?_ (fun _ _ => rfl) (walks_walkItems options (depth + 1) items)
        fun values walked => length_walkItems walked
      · rw [walk]
        simp only [bind_assoc]
      · intro work results
        rw [walkStep]
        simp only [bind_assoc]
  | .object members =>
      refine Walks.container (.dict (members.map Prod.fst))
        (do
          failIf (maxJsonDepth < depth) .depth
          (members.map Prod.fst).forM (checkWalked options))
        ?_ ?_ (fun _ _ => rfl) (walks_walkMembers options (depth + 1) members) ?_
      · rw [walk]
        simp only [bind_assoc]
      · intro work results
        rw [walkStep]
        simp only [bind_assoc]
      · intro values walked
        rw [List.length_map]
        exact length_walkMembers walked

theorem walks_walkItems (options : ParseOptions) (depth : Nat) (items : List (JsonTree ν)) :
    Walks options (items.map fun item => .value item depth) (walkItems options depth items) := by
  match items with
  | [] => exact Walks.nil options
  | item :: items =>
      rw [List.map_cons, walkItems]
      exact (walks_walk options depth item).cons (walks_walkItems options depth items)

theorem walks_walkMembers (options : ParseOptions) (depth : Nat)
    (members : List (List Nat × JsonTree ν)) :
    Walks options (members.map fun member => .value member.2 depth)
      (walkMembers options depth members) := by
  match members with
  | [] => exact Walks.nil options
  | (key, value) :: members =>
      rw [List.map_cons, walkMembers]
      exact (walks_walk options depth value).cons (walks_walkMembers options depth members)

end

/-- With turns enough, the loop on a document returns what the recursion returns. -/
theorem postwalkLoop_eq (options : ParseOptions) (tree : JsonTree ν) :
    ∃ rounds, ∀ fuel, rounds ≤ fuel →
      postwalkLoop options fuel [.value tree 1] [] = some (walk options 1 tree) := by
  obtain ⟨rounds, walks⟩ := walks_walk options 1 tree
  refine ⟨rounds + 1, ?_⟩
  intro fuel enough
  obtain ⟨extra, rfl⟩ := Nat.exists_eq_add_of_le enough
  have run := walks [] [] (1 + extra)
  rw [List.append_nil, ← add_assoc] at run
  rw [run]
  cases walk options 1 tree with
  | error code => rfl
  | ok value =>
      rw [add_comm]
      rfl

/-! ## What the recursion returns -/

mutual

/-- The document with tuples for lists, the order of keys kept. -/
def rebuild : JsonTree ν → SafeJson ν
  | .null => .null
  | .bool value => .bool value
  | .number value => .number value
  | .text points => .str points
  | .array items => .tuple (rebuildItems items)
  | .object members => .dict (rebuildMembers members)

def rebuildItems : List (JsonTree ν) → List (SafeJson ν)
  | [] => []
  | item :: items => rebuild item :: rebuildItems items

def rebuildMembers : List (List Nat × JsonTree ν) → List (List Nat × SafeJson ν)
  | [] => []
  | (key, value) :: members => (key, rebuild value) :: rebuildMembers members

end

theorem zip_rebuildMembers (members : List (List Nat × JsonTree ν)) :
    (members.map Prod.fst).zip ((rebuildMembers members).map Prod.snd) =
      rebuildMembers members := by
  induction members with
  | nil => rfl
  | cons member members induction =>
      obtain ⟨key, value⟩ := member
      rw [rebuildMembers, List.map_cons, List.map_cons, List.zip_cons_cons, induction]

/-- A part of a document and the depth at which it stands. -/
inductive Inside : JsonTree ν → Nat → JsonTree ν → Nat → Prop
  | here (tree : JsonTree ν) (depth : Nat) : Inside tree depth tree depth
  | item {items : List (JsonTree ν)} {item part : JsonTree ν} {depth inner : Nat}
      (member : item ∈ items) (inside : Inside item (depth + 1) part inner) :
      Inside (.array items) depth part inner
  | value {members : List (List Nat × JsonTree ν)} {key : List Nat} {value part : JsonTree ν}
      {depth inner : Nat} (member : (key, value) ∈ members)
      (inside : Inside value (depth + 1) part inner) : Inside (.object members) depth part inner

/-- A text with a character that is not allowed, or with too many bytes. -/
def BadText (options : ParseOptions) (points : List Nat) : Prop :=
  (∃ point ∈ points, point = 0 ∨ 0xd800 ≤ point ∧ point < 0xe000) ∨
    (options.asciiOnly = true ∧ ∃ point ∈ points, point < 0x20 ∨ 0x7e < point) ∨
    options.maxStringBytes < (utf8 (String.ofList (points.map Char.ofNat))).length

/-- What is wrong with a part by itself, at its depth. -/
def Offends (options : ParseOptions) (depth : Nat) : JsonTree ν → Prop
  | .array items => maxJsonDepth < depth ∨ maxJsonArrayItems < items.length
  | .object members => maxJsonDepth < depth ∨ ∃ key ∈ members.map Prod.fst, BadText options key
  | .text points => BadText options points
  | _ => False

/-- No part offends. -/
def Clean (options : ParseOptions) (depth : Nat) (tree : JsonTree ν) : Prop :=
  ∀ part inner, Inside tree depth part inner → ¬Offends options inner part

theorem clean_array {options : ParseOptions} {depth : Nat} {items : List (JsonTree ν)} :
    Clean options depth (.array items) ↔
      ¬Offends options depth (.array items) ∧ ∀ item ∈ items, Clean options (depth + 1) item := by
  constructor
  · intro clean
    exact ⟨clean _ _ (.here _ _), fun item member part inner inside =>
      clean part inner (.item member inside)⟩
  · intro ⟨own, parts⟩ part inner inside
    cases inside with
    | here => exact own
    | item member inside => exact parts _ member part inner inside

theorem clean_object {options : ParseOptions} {depth : Nat}
    {members : List (List Nat × JsonTree ν)} :
    Clean options depth (.object members) ↔ ¬Offends options depth (.object members) ∧
      ∀ member ∈ members, Clean options (depth + 1) member.2 := by
  constructor
  · intro clean
    exact ⟨clean _ _ (.here _ _), fun member inside part inner deeper =>
      clean part inner (.value inside deeper)⟩
  · intro ⟨own, parts⟩ part inner inside
    cases inside with
    | here => exact own
    | value member inside => exact parts _ member part inner inside

/-- A part that has no parts is clean when it does not offend. -/
theorem clean_leaf {options : ParseOptions} {depth : Nat} {tree : JsonTree ν}
    (leaf : ∀ part inner, Inside tree depth part inner → part = tree ∧ inner = depth) :
    Clean options depth tree ↔ ¬Offends options depth tree := by
  constructor
  · intro clean
    exact clean _ _ (.here _ _)
  · intro own part inner inside
    obtain ⟨rfl, rfl⟩ := leaf part inner inside
    exact own

theorem checkWalked_eq_ok {options : ParseOptions} {points : List Nat} :
    checkWalked options points = .ok () ↔ ¬BadText options points := by
  simp only [checkWalked, checkPoints, bind_eq_ok, failIf_eq_ok, exists_unit, pure_eq_ok,
    BadText, not_or, and_true]
  constructor
  · rintro ⟨text, unicode, ascii, short, _⟩
    exact ⟨by simpa using unicode, by simpa using ascii, short⟩
  · rintro ⟨unicode, ascii, short⟩
    exact ⟨_, by simpa using unicode, by simpa using ascii, short, rfl⟩

theorem forM_checkWalked {options : ParseOptions} {keys : List (List Nat)} :
    keys.forM (checkWalked options) = .ok () ↔ ¬∃ key ∈ keys, BadText options key := by
  induction keys with
  | nil => simp
  | cons key keys induction =>
      rw [List.forM, bind_eq_ok, exists_unit, induction, checkWalked_eq_ok]
      simp

mutual

theorem walk_eq_ok (options : ParseOptions) (depth : Nat) (tree : JsonTree ν)
    (value : SafeJson ν) :
    walk options depth tree = .ok value ↔ Clean options depth tree ∧ value = rebuild tree := by
  match tree with
  | .null =>
      rw [clean_leaf (fun part inner inside => by cases inside; exact ⟨rfl, rfl⟩)]
      simp [walk, rebuild, Offends, eq_comm]
  | .bool flag =>
      rw [clean_leaf (fun part inner inside => by cases inside; exact ⟨rfl, rfl⟩)]
      simp [walk, rebuild, Offends, eq_comm]
  | .number amount =>
      rw [clean_leaf (fun part inner inside => by cases inside; exact ⟨rfl, rfl⟩)]
      simp [walk, rebuild, Offends, eq_comm]
  | .text points =>
      rw [clean_leaf (fun part inner inside => by cases inside; exact ⟨rfl, rfl⟩)]
      simp only [walk, bind_eq_ok, exists_unit, pure_eq_ok, checkWalked_eq_ok, rebuild, Offends]
      rw [eq_comm (a := value)]
  | .array items =>
      rw [clean_array]
      simp only [walk, bind_eq_ok, failIf_eq_ok, exists_unit, pure_eq_ok, Offends, not_or,
        walkItems_eq_ok, rebuild]
      constructor
      · rintro ⟨shallow, short, items, ⟨parts, rfl⟩, rfl⟩
        exact ⟨⟨⟨shallow, short⟩, parts⟩, rfl⟩
      · rintro ⟨⟨⟨shallow, short⟩, parts⟩, rfl⟩
        exact ⟨shallow, short, _, ⟨parts, rfl⟩, rfl⟩
  | .object members =>
      rw [clean_object]
      simp only [walk, bind_eq_ok, failIf_eq_ok, exists_unit, pure_eq_ok, Offends, not_or,
        walkMembers_eq_ok, forM_checkWalked, rebuild]
      constructor
      · rintro ⟨shallow, keys, values, ⟨parts, rebuilt⟩, rfl⟩
        exact ⟨⟨⟨shallow, keys⟩, parts⟩, by rw [rebuilt, zip_rebuildMembers]⟩
      · rintro ⟨⟨⟨shallow, keys⟩, parts⟩, rfl⟩
        exact ⟨shallow, keys, _, ⟨parts, rfl⟩, by rw [zip_rebuildMembers]⟩

theorem walkItems_eq_ok (options : ParseOptions) (depth : Nat) (items : List (JsonTree ν))
    (values : List (SafeJson ν)) :
    walkItems options depth items = .ok values ↔
      (∀ item ∈ items, Clean options depth item) ∧ values = rebuildItems items := by
  match items with
  | [] => simp [walkItems, rebuildItems, eq_comm]
  | item :: items =>
      simp only [walkItems, bind_eq_ok, pure_eq_ok, walk_eq_ok options depth item,
        walkItems_eq_ok options depth items, rebuildItems, List.forall_mem_cons]
      constructor
      · rintro ⟨value, ⟨own, rfl⟩, values, ⟨others, rfl⟩, rfl⟩
        exact ⟨⟨own, others⟩, rfl⟩
      · rintro ⟨⟨own, others⟩, rfl⟩
        exact ⟨_, ⟨own, rfl⟩, _, ⟨others, rfl⟩, rfl⟩

theorem walkMembers_eq_ok (options : ParseOptions) (depth : Nat)
    (members : List (List Nat × JsonTree ν)) (values : List (SafeJson ν)) :
    walkMembers options depth members = .ok values ↔
      (∀ member ∈ members, Clean options depth member.2) ∧
        values = (rebuildMembers members).map Prod.snd := by
  match members with
  | [] => simp [walkMembers, rebuildMembers, eq_comm]
  | (key, value) :: members =>
      simp only [walkMembers, bind_eq_ok, pure_eq_ok, walk_eq_ok options depth value,
        walkMembers_eq_ok options depth members, rebuildMembers, List.forall_mem_cons,
        List.map_cons]
      constructor
      · rintro ⟨value, ⟨own, rfl⟩, values, ⟨others, rfl⟩, rfl⟩
        exact ⟨⟨own, others⟩, rfl⟩
      · rintro ⟨⟨own, others⟩, rfl⟩
        exact ⟨_, ⟨own, rfl⟩, _, ⟨others, rfl⟩, rfl⟩

end

/-! ## Integer mode -/

def pointsText (points : List Nat) : String := String.ofList (points.map Char.ofNat)

namespace SafeJson

mutual

/-- A value with integers, as the other modules have it. -/
def json : SafeJson Int → Json
  | .null => .null
  | .bool value => .bool value
  | .number value => .num value
  | .str points => .str (pointsText points)
  | .tuple items => .arr (jsonItems items)
  | .dict members => .obj (jsonMembers members)

def jsonItems : List (SafeJson Int) → List Json
  | [] => []
  | item :: items => json item :: jsonItems items

def jsonMembers : List (List Nat × SafeJson Int) → List (String × Json)
  | [] => []
  | (key, value) :: members => (pointsText key, json value) :: jsonMembers members

end

theorem jsonMembers_zip (keys : List (List Nat)) (values : List (SafeJson Int)) :
    jsonMembers (keys.zip values) = (keys.map pointsText).zip (jsonItems values) := by
  induction keys generalizing values with
  | nil => rfl
  | cons key keys induction =>
      cases values with
      | nil => rfl
      | cons value values =>
          rw [List.zip_cons_cons, jsonMembers, induction, jsonItems, List.map_cons,
            List.zip_cons_cons]

end SafeJson

theorem checkPoints_eq (options : ParseOptions) (points : List Nat) :
    checkPoints options points = (checkWalked options points).map fun _ => pointsText points := by
  unfold checkWalked
  cases checked : checkPoints options points with
  | error code => rfl
  | ok text =>
      simp only [checkPoints, bind_eq_ok, failIf_eq_ok, exists_unit, pure_eq_ok] at checked
      obtain ⟨_, _, _, rfl⟩ := checked
      rfl

theorem mapM_checkPoints_eq (options : ParseOptions) (members : List (List Nat × JsonTree ν)) :
    (members.mapM fun member => checkPoints options member.1) =
      ((members.map Prod.fst).forM (checkWalked options)).map fun _ =>
        (members.map Prod.fst).map pointsText := by
  induction members with
  | nil => rfl
  | cons member members induction =>
      rw [List.mapM_cons, checkPoints_eq, induction, List.map_cons, List.forM]
      cases checkWalked options member.1 with
      | error code => rfl
      | ok checked =>
          cases (members.map Prod.fst).forM (checkWalked options) <;> rfl

mutual

/-- `postwalk` is the recursion at integers. -/
theorem postwalk_eq (options : ParseOptions) (depth : Nat) (tree : JsonTree Int) :
    postwalk options depth tree = (walk options depth tree).map SafeJson.json := by
  match tree with
  | .null => rfl
  | .bool value => rfl
  | .number value => rfl
  | .text points =>
      rw [postwalk, walk, checkPoints_eq]
      cases checkWalked options points <;> rfl
  | .array items =>
      rw [postwalk, walk, postwalkItems_eq]
      cases failIf (maxJsonDepth < depth) JsonReadCode.depth with
      | error code => rfl
      | ok _ =>
          cases failIf (maxJsonArrayItems < items.length) JsonReadCode.arrayTooLong with
          | error code => rfl
          | ok _ => cases walkItems options (depth + 1) items <;> rfl
  | .object members =>
      rw [postwalk, walk, postwalkMembers_eq, mapM_checkPoints_eq]
      cases failIf (maxJsonDepth < depth) JsonReadCode.depth with
      | error code => rfl
      | ok _ =>
          cases (members.map Prod.fst).forM (checkWalked options) with
          | error code => rfl
          | ok checked =>
              cases walkMembers options (depth + 1) members with
              | error code => rfl
              | ok values =>
                  exact congrArg (fun members => Except.ok (Json.obj members))
                    (SafeJson.jsonMembers_zip _ values).symm

theorem postwalkItems_eq (options : ParseOptions) (depth : Nat) (items : List (JsonTree Int)) :
    postwalkItems options depth items =
      (walkItems options depth items).map SafeJson.jsonItems := by
  match items with
  | [] => rfl
  | item :: items =>
      rw [postwalkItems, walkItems, postwalk_eq, postwalkItems_eq]
      cases walk options depth item with
      | error code => rfl
      | ok value => cases walkItems options depth items <;> rfl

theorem postwalkMembers_eq (options : ParseOptions) (depth : Nat)
    (members : List (List Nat × JsonTree Int)) :
    postwalkMembers options depth members =
      (walkMembers options depth members).map SafeJson.jsonItems := by
  match members with
  | [] => rfl
  | (key, value) :: members =>
      rw [postwalkMembers, walkMembers, postwalk_eq, postwalkMembers_eq]
      cases walk options depth value with
      | error code => rfl
      | ok value => cases walkMembers options depth members <;> rfl

end

/-! ## Both checks -/

/-- What the two passes over a document decide. -/
structure DepthChecks : Prop where
  /-- The prescan of a JSON text fails exactly when its containers nest too deep. -/
  prescan : ∀ {ε ν : Type} (hooks : JsonHooks ε ν) (text : List Char) (tree : JsonTree ν),
    IsJsonText hooks text tree → prescanDepth 0 false text =
      if maxJsonDepth < tree.nesting then .error .depth else .ok ()
  /-- The loop over a document ends, in a value or in a failure. -/
  ends : ∀ {ν : Type} (options : ParseOptions) (tree : JsonTree ν),
    ∃ rounds outcome, ∀ fuel, rounds ≤ fuel →
      postwalkLoop options fuel [.value tree 1] [] = some outcome
  /-- It returns a value exactly when no part of the document offends, and then the
  document rebuilt. -/
  returns : ∀ {ν : Type} (options : ParseOptions) (tree : JsonTree ν) (value : SafeJson ν),
    (∃ fuel, postwalkLoop options fuel [.value tree 1] [] = some (.ok value)) ↔
      (¬∃ part depth, Inside tree 1 part depth ∧ Offends options depth part) ∧
        value = rebuild tree
  /-- It fails exactly when some part does. -/
  fails : ∀ {ν : Type} (options : ParseOptions) (tree : JsonTree ν),
    (∃ fuel code, postwalkLoop options fuel [.value tree 1] [] = some (.error code)) ↔
      ∃ part depth, Inside tree 1 part depth ∧ Offends options depth part
  /-- In integer mode this is the walk of `parse_json`. -/
  integers : ∀ (options : ParseOptions) (tree : JsonTree Int), ∃ fuel,
    (postwalkLoop options fuel [.value tree 1] []).map (Except.map SafeJson.json) =
      some (postwalk options 1 tree)

theorem postwalkLoop_mono {options : ParseOptions} {fuel : Nat} {work : List (WalkItem ν)}
    {results : List (SafeJson ν)} {outcome : Except JsonReadCode (SafeJson ν)}
    (ended : postwalkLoop options fuel work results = some outcome) (extra : Nat) :
    postwalkLoop options (fuel + extra) work results = some outcome := by
  induction fuel generalizing work results with
  | zero => cases ended
  | succ fuel induction =>
      rw [Nat.add_right_comm]
      cases work with
      | nil => exact ended
      | cons item work =>
          rw [postwalkLoop] at ended ⊢
          cases step : walkStep options work results item with
          | error code =>
              rw [step] at ended
              exact ended
          | ok next =>
              rw [step] at ended
              exact induction ended

/-- The loop ends only in what the recursion returns. -/
theorem exists_postwalkLoop_iff {options : ParseOptions} {tree : JsonTree ν}
    {outcome : Except JsonReadCode (SafeJson ν)} :
    (∃ fuel, postwalkLoop options fuel [.value tree 1] [] = some outcome) ↔
      walk options 1 tree = outcome := by
  obtain ⟨rounds, ends⟩ := postwalkLoop_eq options tree
  constructor
  · intro ⟨fuel, ended⟩
    have longer := postwalkLoop_mono ended rounds
    rw [ends (fuel + rounds) (by omega)] at longer
    exact Option.some.inj longer
  · intro walked
    exact ⟨rounds, by rw [ends rounds le_rfl, walked]⟩

theorem clean_iff {options : ParseOptions} {depth : Nat} {tree : JsonTree ν} :
    Clean options depth tree ↔
      ¬∃ part inner, Inside tree depth part inner ∧ Offends options inner part := by
  simp only [Clean, not_exists, not_and]

theorem walk_eq_error {options : ParseOptions} {depth : Nat} {tree : JsonTree ν} :
    (∃ code, walk options depth tree = .error code) ↔ ¬Clean options depth tree := by
  constructor
  · intro ⟨code, failed⟩ clean
    rw [(walk_eq_ok options depth tree _).mpr ⟨clean, rfl⟩] at failed
    cases failed
  · intro offends
    cases walked : walk options depth tree with
    | error code => exact ⟨code, rfl⟩
    | ok value => exact absurd ((walk_eq_ok options depth tree value).mp walked).1 offends

theorem depth_checks : DepthChecks where
  prescan _ _ _ valid := valid.prescanDepth
  ends options tree := by
    obtain ⟨rounds, ends⟩ := postwalkLoop_eq options tree
    exact ⟨rounds, _, ends⟩
  returns options tree value := by
    rw [exists_postwalkLoop_iff, walk_eq_ok, clean_iff]
  fails options tree := by
    rw [exists_comm]
    simp only [exists_postwalkLoop_iff]
    rw [walk_eq_error, clean_iff, not_not]
  integers options tree := by
    obtain ⟨rounds, ends⟩ := postwalkLoop_eq options tree
    refine ⟨rounds, ?_⟩
    rw [ends rounds le_rfl, postwalk_eq]
    rfl

end ManyAlerts
