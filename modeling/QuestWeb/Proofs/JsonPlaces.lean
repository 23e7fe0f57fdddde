import Mathlib.Data.List.Nodup
import QuestWeb.Dataset.Scan
import QuestWeb.Proofs.Canonical
import QuestWeb.Proofs.DistinctKeys
import QuestWeb.Proofs.QuestNumbers

/-!
Places in a JSON tree. A place is the list of keys and indices that lead to it. A tree in canonical
form has one value at most at each place, and a walk over its objects comes to each of them once.
The walk writes a place with a slash before each key; the standard for such pointers moreover
escapes slashes and tildes in keys, and reads them back.
-/

namespace QuestWeb

namespace Json

def Ascends (members : List (String × Json)) : Prop :=
  members.Pairwise fun first second => first.1 < second.1

theorem Ascends.placeMember {members : List (String × Json)} (ascends : Ascends members)
    (member : String × Json) : Ascends (placeMember member members) := by
  induction members with
  | nil => exact List.pairwise_singleton ..
  | cons next rest ih =>
      obtain ⟨above, ordered⟩ := List.pairwise_cons.mp ascends
      unfold Json.placeMember
      split
      case isTrue less =>
        refine List.pairwise_cons.mpr ⟨fun other listed => ?_, ascends⟩
        rcases List.mem_cons.mp listed with rfl | behind
        · exact less
        · exact String.lt_trans less (above other behind)
      case isFalse more =>
        split
        case isTrue => exact ascends
        case isFalse apart =>
          refine List.pairwise_cons.mpr ⟨fun other listed => ?_, ih ordered⟩
          rcases mem_placeMember member other rest listed with rfl | behind
          · exact Std.lt_of_le_of_ne (String.not_lt.mp more) (Ne.symm apart)
          · exact above other behind

theorem Ascends.nodup {members : List (String × Json)} (ascends : Ascends members) :
    (members.map Prod.fst).Nodup := by
  rw [List.Nodup, List.pairwise_map]
  refine ascends.imp fun less same => ?_
  rw [same] at less
  exact String.lt_irrefl _ less

mutual

theorem free?_isDistinct (json value : Json) (freed : json.free? = some value) :
    value.isDistinct = true := by
  cases json with
  | arr items =>
      obtain ⟨values, inside, rfl⟩ := free?_arr items value freed
      exact (isDistinct_arr values).mpr (freeItems?_isDistinct items values inside)
  | obj members =>
      obtain ⟨values, inside, rfl⟩ := free?_obj members value freed
      obtain ⟨ascends, each⟩ := freeMembers?_isDistinct members values inside
      exact (isDistinct_obj values).mpr ⟨ascends.nodup, each⟩
  | unreadable => cases freed
  | _ =>
      cases freed
      rfl

theorem freeItems?_isDistinct (items values : List Json)
    (freed : freeItems? items = some values) : ∀ value ∈ values, value.isDistinct = true := by
  cases items with
  | nil =>
      cases freed
      nofun
  | cons item rest =>
      obtain ⟨value, others, here, later, rfl⟩ := (freeItems?_cons ..).mp freed
      exact List.forall_mem_cons.mpr
        ⟨free?_isDistinct item value here, freeItems?_isDistinct rest others later⟩

theorem freeMembers?_isDistinct (members values : List (String × Json))
    (freed : freeMembers? members = some values) :
    Ascends values ∧ ∀ member ∈ values, member.2.isDistinct = true := by
  cases members with
  | nil =>
      cases freed
      exact ⟨.nil, nofun⟩
  | cons first rest =>
      obtain ⟨value, others, here, later, rfl⟩ :=
        freeMembers?_cons first.1 first.2 rest values freed
      obtain ⟨ascends, each⟩ := freeMembers?_isDistinct rest others later
      refine ⟨ascends.placeMember _, fun member listed => ?_⟩
      rcases mem_placeMember _ member others listed with rfl | behind
      · exact free?_isDistinct first.2 value here
      · exact each member behind

end

def branches : Json → List (String × Json)
  | .arr items => items.zipIdx.map fun (item, index) => (toString index, item)
  | .obj members => members
  | _ => []

def at? : List String → Json → Option Json
  | [], value => some value
  | key :: path, value => (value.branches.lookup key).bind (at? path)

abbrev Placed : Type := List String × List (String × Json)

def deeper (key : String) (placed : Placed) : Placed :=
  (key :: placed.1, placed.2)

mutual

def places : Json → List Placed
  | .arr items => itemPlaces 0 items
  | .obj members => ([], members) :: memberPlaces members
  | _ => []

def itemPlaces (index : Nat) : List Json → List Placed
  | [] => []
  | item :: rest => item.places.map (deeper (toString index)) ++ itemPlaces (index + 1) rest

def memberPlaces : List (String × Json) → List Placed
  | [] => []
  | (key, item) :: rest => item.places.map (deeper key) ++ memberPlaces rest

end

def ownPlace : Json → List Placed
  | .obj members => [([], members)]
  | _ => []

theorem itemPlaces_eq (index : Nat) (items : List Json) : itemPlaces index items =
    ((items.zipIdx index).map fun (item, index) => (toString index, item)).flatMap
      fun (key, item) => item.places.map (deeper key) := by
  induction items generalizing index with
  | nil => rfl
  | cons item rest ih => simp [itemPlaces, ih]

theorem memberPlaces_eq (members : List (String × Json)) :
    memberPlaces members = members.flatMap fun (key, item) => item.places.map (deeper key) := by
  induction members with
  | nil => rfl
  | cons member rest ih => simp [memberPlaces, ih]

theorem places_eq (value : Json) : value.places =
    value.ownPlace ++ value.branches.flatMap fun (key, item) => item.places.map (deeper key) := by
  cases value with
  | arr items => simp [places, ownPlace, branches, itemPlaces_eq]
  | obj members => simp [places, ownPlace, branches, memberPlaces_eq]
  | _ => rfl

theorem mem_places_nil (value : Json) (members : List (String × Json)) :
    ([], members) ∈ value.places ↔ value = .obj members := by
  have outer (key : String) (item : Json) :
      ([], members) ∉ item.places.map (deeper key) := by
    simp [deeper]
  rw [places_eq, List.mem_append, List.mem_flatMap]
  cases value with
  | obj own => simp [ownPlace, outer, eq_comm]
  | _ => simp [ownPlace, outer]

theorem mem_places_cons (value : Json) (key : String) (path : List String)
    (members : List (String × Json)) : (key :: path, members) ∈ value.places ↔
      ∃ item, (key, item) ∈ value.branches ∧ (path, members) ∈ item.places := by
  have own : (key :: path, members) ∉ value.ownPlace := by
    cases value <;> simp [ownPlace]
  rw [places_eq, List.mem_append, or_iff_right own]
  simp only [List.mem_flatMap, List.mem_map, Prod.exists, deeper, Prod.mk.injEq,
    List.cons.injEq]
  constructor
  · rintro ⟨_, item, branch, _, _, listed, ⟨rfl, rfl⟩, rfl⟩
    exact ⟨item, branch, listed⟩
  · rintro ⟨item, branch, listed⟩
    exact ⟨key, item, branch, path, members, listed, ⟨rfl, rfl⟩, rfl⟩

theorem toString_injective : Function.Injective (toString : Nat → String) := by
  intro index other same
  apply QuestNum.toDigits_inj
  rw [← Nat.toList_repr, ← Nat.toList_repr]
  exact congrArg String.toList same

theorem branches_nodup (value : Json) (distinct : value.isDistinct = true) :
    (value.branches.map Prod.fst).Nodup := by
  cases value with
  | arr items =>
      have indices : (items.zipIdx.map Prod.snd).Nodup := by
        rw [List.zipIdx_map_snd]
        exact List.nodup_range'
      have keys : (Json.arr items).branches.map Prod.fst =
          (items.zipIdx.map Prod.snd).map toString := by
        rw [branches, List.map_map, List.map_map]
        rfl
      rw [keys]
      exact indices.map toString_injective
  | obj members => exact ((isDistinct_obj members).mp distinct).1
  | _ => exact .nil

theorem branch_isDistinct (value : Json) (distinct : value.isDistinct = true) (key : String)
    (item : Json) (branch : (key, item) ∈ value.branches) : item.isDistinct = true := by
  cases value with
  | arr items =>
      obtain ⟨⟨own, index⟩, listed, same⟩ := List.mem_map.mp branch
      cases same
      exact (isDistinct_arr items).mp distinct _ (List.fst_mem_of_mem_zipIdx listed)
  | obj members => exact ((isDistinct_obj members).mp distinct).2 (key, item) branch
  | _ => contradiction

theorem lookup_eq_some (members : List (String × Json)) (distinct : (members.map Prod.fst).Nodup)
    (key : String) (item : Json) :
    members.lookup key = some item ↔ (key, item) ∈ members := by
  induction members with
  | nil => simp
  | cons member rest ih =>
      obtain ⟨name, own⟩ := member
      rw [List.map_cons, List.nodup_cons] at distinct
      rw [List.lookup_cons, List.mem_cons, Prod.mk.injEq]
      by_cases same : key = name
      · subst same
        have absent : (key, item) ∉ rest := fun listed =>
          distinct.1 (List.mem_map.mpr ⟨_, listed, rfl⟩)
        simp [absent, eq_comm]
      · have apart : (key == name) = false := by simpa using same
        rw [apart, or_iff_right fun both => same both.1]
        exact ih distinct.2

/-- The walk comes to exactly the objects of a tree, each under the path that leads to it. -/
theorem mem_places (value : Json) (distinct : value.isDistinct = true) (path : List String)
    (members : List (String × Json)) :
    (path, members) ∈ value.places ↔ at? path value = some (.obj members) := by
  induction path generalizing value with
  | nil => rw [mem_places_nil, at?, Option.some.injEq]
  | cons key path ih =>
      rw [mem_places_cons, at?, Option.bind_eq_some_iff]
      refine exists_congr fun item => ?_
      rw [lookup_eq_some _ (branches_nodup value distinct)]
      exact and_congr_right fun branch =>
        ih item (branch_isDistinct value distinct key item branch)

theorem sizeOf_branch (value : Json) (key : String) (item : Json)
    (branch : (key, item) ∈ value.branches) : sizeOf item < sizeOf value := by
  cases value with
  | arr items =>
      obtain ⟨⟨own, index⟩, listed, same⟩ := List.mem_map.mp branch
      obtain ⟨_, rfl⟩ := Prod.mk.inj same
      have smaller : sizeOf own < sizeOf items :=
        List.sizeOf_lt_of_mem (List.fst_mem_of_mem_zipIdx listed)
      simp only [Json.arr.sizeOf_spec]
      omega
  | obj members =>
      have smaller : sizeOf (key, item) < sizeOf members := List.sizeOf_lt_of_mem branch
      simp only [Json.obj.sizeOf_spec, Prod.mk.sizeOf_spec] at smaller ⊢
      omega
  | _ => contradiction

theorem paths_eq (value : Json) : value.places.map Prod.fst = value.ownPlace.map Prod.fst ++
    value.branches.flatMap fun branch => (branch.2.places.map Prod.fst).map (branch.1 :: ·) := by
  rw [places_eq, List.map_append, List.map_flatMap]
  refine congrArg _ (List.flatMap_congr fun branch _ => ?_)
  simp [deeper]

/-- The walk comes to no place twice. -/
theorem places_nodup (value : Json) (distinct : value.isDistinct = true) :
    (value.places.map Prod.fst).Nodup := by
  rw [paths_eq, List.nodup_append, List.nodup_flatMap]
  refine ⟨?own, ⟨fun branch listed => ?inside, ?apart⟩, ?outside⟩
  case own => cases value <;> simp [ownPlace]
  case inside =>
    have smaller := sizeOf_branch value branch.1 branch.2 listed
    have unique := places_nodup branch.2 (branch_isDistinct value distinct branch.1 branch.2 listed)
    exact unique.map fun path other same => (List.cons.inj same).2
  case apart =>
    refine (List.pairwise_map.mp (branches_nodup value distinct)).imp fun differ => ?_
    intro path here there
    obtain ⟨_, _, rfl⟩ := List.mem_map.mp here
    obtain ⟨_, _, same⟩ := List.mem_map.mp there
    exact differ (List.cons.inj same).1.symm
  case outside =>
    intro path own other inside
    obtain ⟨branch, _, listed⟩ := List.mem_flatMap.mp inside
    obtain ⟨_, _, rfl⟩ := List.mem_map.mp listed
    cases value <;> simp [ownPlace] at own
    simp [own]
termination_by sizeOf value

def written (path : List String) : String :=
  path.foldr (fun key behind => "/" ++ key ++ behind) ""

theorem toList_written (path : List String) :
    (written path).toList = path.flatMap fun key => '/' :: key.toList := by
  induction path with
  | nil => rfl
  | cons key rest ih =>
      have step : written (key :: rest) = "/" ++ key ++ written rest := rfl
      simp [step, ih]

theorem toList_written_cons (key : String) (rest : List String) :
    (written (key :: rest)).toList = '/' :: (key.toList ++ (written rest).toList) := by
  simp [toList_written]

def writtenAt (pointer : String) (placed : Placed) : String × List (String × Json) :=
  (pointer ++ written placed.1, placed.2)

theorem writtenAt_under (pointer key : String) (placed : Placed) :
    writtenAt pointer (deeper key placed) = writtenAt (pointer ++ "/" ++ key) placed := by
  have step : written (key :: placed.1) = "/" ++ key ++ written placed.1 := rfl
  simp only [writtenAt, deeper, step, String.append_assoc]

mutual

theorem objects_eq (pointer : String) (value : Json) :
    value.objects pointer = value.places.map (writtenAt pointer) := by
  cases value with
  | arr items => exact itemObjects_eq pointer 0 items
  | obj members =>
      rw [objects, places, List.map_cons, memberObjects_eq]
      simp [writtenAt, written]
  | _ => rfl

theorem itemObjects_eq (pointer : String) (index : Nat) (items : List Json) :
    itemObjects pointer index items = (itemPlaces index items).map (writtenAt pointer) := by
  cases items with
  | nil => rfl
  | cons item rest =>
      rw [itemObjects, itemPlaces, List.map_append, List.map_map, objects_eq, itemObjects_eq]
      simp only [Function.comp_def, writtenAt_under]

theorem memberObjects_eq (pointer : String) (members : List (String × Json)) :
    memberObjects pointer members = (memberPlaces members).map (writtenAt pointer) := by
  cases members with
  | nil => rfl
  | cons member rest =>
      obtain ⟨key, item⟩ := member
      rw [memberObjects, memberPlaces, List.map_append, List.map_map, objects_eq, memberObjects_eq]
      simp only [Function.comp_def, writtenAt_under]

end

def tokensFrom : List Char → Option (List Char × List (List Char))
  | [] => some ([], [])
  | '/' :: rest => (tokensFrom rest).map fun (token, others) => ([], token :: others)
  | '~' :: '0' :: rest => (tokensFrom rest).map fun (token, others) => ('~' :: token, others)
  | '~' :: '1' :: rest => (tokensFrom rest).map fun (token, others) => ('/' :: token, others)
  | '~' :: _ => none
  | c :: rest => (tokensFrom rest).map fun (token, others) => (c :: token, others)

/-- The place that a pointer names by the standard: nothing, or tokens that follow a slash each. -/
def tokens? (pointer : String) : Option (List String) :=
  match pointer.toList with
  | [] => some []
  | '/' :: rest =>
      (tokensFrom rest).map fun (token, others) => (token :: others).map String.ofList
  | _ => none

def resolve? (pointer : String) (value : Json) : Option Json :=
  (tokens? pointer).bind (at? · value)

def IsPlain (key : String) : Prop :=
  '/' ∉ key.toList ∧ '~' ∉ key.toList

instance (key : String) : Decidable (IsPlain key) :=
  inferInstanceAs (Decidable (_ ∧ _))

theorem tokensFrom_plain (c : Char) (rest : List Char) (slash : c ≠ '/') (tilde : c ≠ '~') :
    tokensFrom (c :: rest) =
      (tokensFrom rest).map fun (token, others) => (c :: token, others) := by
  rw [tokensFrom]
  all_goals simp_all

theorem tokensFrom_append (key rest : List Char) (slash : '/' ∉ key) (tilde : '~' ∉ key) :
    tokensFrom (key ++ rest) =
      (tokensFrom rest).map fun (token, others) => (key ++ token, others) := by
  induction key with
  | nil => simp
  | cons c key ih =>
      rw [List.mem_cons, not_or] at slash tilde
      rw [List.cons_append, tokensFrom_plain c _ (Ne.symm slash.1) (Ne.symm tilde.1),
        ih slash.2 tilde.2, Option.map_map]
      rfl

theorem tokensFrom_written (path : List String) (key : String)
    (plain : ∀ name ∈ key :: path, IsPlain name) :
    tokensFrom (key.toList ++ (written path).toList) =
      some (key.toList, path.map String.toList) := by
  induction path generalizing key with
  | nil =>
      obtain ⟨slash, tilde⟩ := plain key List.mem_cons_self
      rw [tokensFrom_append _ _ slash tilde]
      simp [written, tokensFrom]
  | cons next rest ih =>
      obtain ⟨⟨slash, tilde⟩, behind⟩ := List.forall_mem_cons.mp plain
      rw [tokensFrom_append _ _ slash tilde, toList_written_cons, tokensFrom, ih next behind]
      simp

/-- Each slash begins a token, and each tilde is a character that the token has not. -/
theorem tokensFrom_counts (chars token : List Char) (others : List (List Char))
    (read : tokensFrom chars = some (token, others)) :
    others.length = chars.count '/' ∧
      token.length + others.flatten.length + others.length + chars.count '~' = chars.length := by
  fun_induction tokensFrom chars generalizing token others with
  | case1 =>
      cases read
      simp
  | case2 rest ih =>
      obtain ⟨⟨next, more⟩, later, same⟩ := Option.map_eq_some_iff.mp read
      obtain ⟨slashes, chars⟩ := ih next more later
      cases same
      simp only [List.count_cons, List.length_cons, List.length_nil, List.flatten_cons,
        List.length_append, beq_self_eq_true, ↓reduceIte, Char.reduceBEq, Bool.false_eq_true]
      omega
  | case3 rest ih | case4 rest ih =>
      obtain ⟨⟨next, more⟩, later, same⟩ := Option.map_eq_some_iff.mp read
      obtain ⟨slashes, chars⟩ := ih next more later
      cases same
      simp only [List.count_cons, List.length_cons, beq_self_eq_true, ↓reduceIte, Char.reduceBEq,
        Bool.false_eq_true]
      omega
  | case5 => cases read
  | case6 c rest slash _ _ tilde ih =>
      obtain ⟨⟨next, more⟩, later, same⟩ := Option.map_eq_some_iff.mp read
      obtain ⟨slashes, chars⟩ := ih next more later
      cases same
      rw [List.count_cons_of_ne slash, List.count_cons_of_ne tilde]
      simp only [List.length_cons]
      omega

theorem tokens?_counts (pointer : String) (path : List String)
    (read : tokens? pointer = some path) :
    path.length = pointer.toList.count '/' ∧
      path.length + (path.flatMap String.toList).length + pointer.toList.count '~' =
        pointer.toList.length := by
  unfold tokens? at read
  split at read
  case h_1 empty =>
    cases read
    simp [empty]
  case h_2 rest spelled =>
    obtain ⟨⟨token, others⟩, whole, rfl⟩ := Option.map_eq_some_iff.mp read
    obtain ⟨slashes, chars⟩ := tokensFrom_counts rest token others whole
    rw [spelled]
    simp only [List.length_map, List.length_cons, List.flatMap_map, String.toList_ofList,
      List.flatMap_id', List.flatten_cons, List.length_append, List.count_cons, beq_self_eq_true,
      ↓reduceIte, Char.reduceBEq, Bool.false_eq_true]
    omega
  case h_3 => cases read

theorem written_counts (path : List String) :
    (written path).toList.count '/' = path.length + (path.flatMap String.toList).count '/' ∧
    (written path).toList.count '~' = (path.flatMap String.toList).count '~' ∧
    (written path).toList.length = path.length + (path.flatMap String.toList).length := by
  rw [toList_written]
  induction path with
  | nil => simp
  | cons key rest ih =>
      obtain ⟨slashes, tildes, chars⟩ := ih
      simp only [List.flatMap_cons, List.cons_append, List.count_cons, List.count_append,
        List.length_cons, List.length_append, beq_self_eq_true, ↓reduceIte, Char.reduceBEq,
        Bool.false_eq_true]
      omega

/-- The written place is read as that place exactly if the standard writes its keys as they are. -/
theorem tokens?_written (path : List String) :
    tokens? (written path) = some path ↔ ∀ key ∈ path, IsPlain key := by
  constructor
  · intro read
    obtain ⟨own, whole⟩ := tokens?_counts (written path) path read
    obtain ⟨slashes, tildes, chars⟩ := written_counts path
    have slash : (path.flatMap String.toList).count '/' = 0 := by omega
    have tilde : (path.flatMap String.toList).count '~' = 0 := by omega
    rw [List.count_eq_zero, List.mem_flatMap] at slash tilde
    exact fun key listed =>
      ⟨fun inside => slash ⟨key, listed, inside⟩, fun inside => tilde ⟨key, listed, inside⟩⟩
  · intro plain
    cases path with
    | nil => rfl
    | cons key rest =>
        simp [tokens?, toList_written_cons, tokensFrom_written rest key plain]

def pieces (path : List String) : List (List Char) :=
  path.flatMap fun key => key.toList.splitOn '/'

theorem splitOn_written (path : List String) (before : List Char) :
    (before ++ (written path).toList).splitOn '/' = before.splitOn '/' ++ pieces path := by
  induction path generalizing before with
  | nil => simp [written, pieces]
  | cons key rest ih =>
      rw [toList_written_cons, List.splitOn_append_cons_of_beq _ _ (beq_self_eq_true _), ih]
      rfl

/-- Places are written alike exactly if they are the same in pieces. -/
theorem written_eq_iff (path other : List String) :
    written path = written other ↔ pieces path = pieces other := by
  have cut (path : List String) :
      (written path).toList.splitOn '/' = [] :: pieces path :=
    splitOn_written path []
  constructor
  · intro same
    exact (List.cons.inj ((cut path).symm.trans (same ▸ cut other))).2
  · intro same
    apply String.toList_inj.mp
    calc (written path).toList
        = ['/'].intercalate ((written path).toList.splitOn '/') :=
          (List.intercalate_splitOn '/').symm
      _ = ['/'].intercalate ((written other).toList.splitOn '/') := by rw [cut, cut, same]
      _ = (written other).toList := List.intercalate_splitOn '/'

end Json

end QuestWeb
