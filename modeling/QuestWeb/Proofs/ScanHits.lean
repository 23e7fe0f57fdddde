import QuestWeb.Proofs.JsonPlaces
import QuestWeb.Proofs.NextQuests

/-!
What the scans of a document find, and where they say that it is. Each object that names the
location of a next quest is found once, and so is each match in a text that is prose; what is found
carries its place as the walk writes it. The standard for pointers reads that place back only where
no key on the way has a slash or a tilde.
-/

namespace QuestWeb

namespace Text

theorem isBlankText_append (first second : String) :
    isBlankText (first ++ second) = (isBlankText first && isBlankText second) := by
  simp [isBlankText]

theorem isBlank_digit (c : Char) (digit : c.isDigit = true) : isBlank c = false := by
  have bounds : 48 ≤ c.toNat ∧ c.toNat ≤ 57 := Char.isDigit_iff_toNat.mp digit
  simp only [isBlank, Bool.or_eq_false_iff, Bool.and_eq_false_iff, beq_eq_false_iff_ne,
    decide_eq_false_iff_not]
  omega

theorem isBlankText_nat (n : Nat) : isBlankText (toString n) = false := by
  have digits : (toString n).toList = Nat.toDigits 10 n := Nat.toList_repr
  obtain ⟨c, listed⟩ := List.exists_mem_of_ne_nil _ (Nat.toDigits_ne_nil (n := n) (b := 10))
  have digit := Nat.isDigit_of_mem_toDigits (by decide) (by decide) listed
  rw [isBlankText, digits, List.all_eq_false]
  exact ⟨c, listed, by simp [isBlank_digit c digit]⟩

end Text

namespace Json

theorem positionalText_visible (digits : String) (leading : Int) :
    Text.isBlankText (positionalText digits leading) = false := by
  have whole : Text.isBlankText "0." = false := by decide
  have point : Text.isBlankText "." = false := by decide
  have part : Text.isBlankText ".0" = false := by decide
  unfold positionalText
  split
  · simp [Text.isBlankText_append, whole]
  · dsimp only
    split <;> simp [Text.isBlankText_append, point, part]

theorem scientificText_visible (digits : String) (leading : Int) :
    Text.isBlankText (scientificText digits leading) = false := by
  have exponent : Text.isBlankText "e" = false := by decide
  simp [scientificText, Text.isBlankText_append, exponent]

theorem floatText_visible (x : Binary64) : Text.isBlankText (floatText x) = false := by
  have zero : Text.isBlankText "0.0" = false := by decide
  unfold floatText
  dsimp only
  split
  · simp [Text.isBlankText_append, zero]
  · rw [Text.isBlankText_append, Bool.and_eq_false_iff]
    right
    split
    · exact positionalText_visible ..
    · exact scientificText_visible ..

theorem numberText_visible (number : JsonNumber) :
    Text.isBlankText (numberText number) = false := by
  cases number with
  | int value =>
      cases value with
      | ofNat n => exact Text.isBlankText_nat n
      | negSucc n =>
          have spelled : numberText (.int (.negSucc n)) = "-" ++ toString (n + 1) := rfl
          rw [spelled, Text.isBlankText_append, Text.isBlankText_nat, Bool.and_false]
  | float value => exact floatText_visible value

def IsBlank (value : Json) : Prop :=
  value = .null ∨ ∃ text, value = .str text ∧ Text.isBlankText text = true

theorem compact_visible (value : Json) (shown : ∀ text, value ≠ .str text) :
    Text.isBlankText value.compact = false := by
  have bracket : Text.isBlankText "[" = false := by decide
  have brace : Text.isBlankText "\x7b" = false := by decide
  cases value with
  | null | unreadable => decide
  | bool value => cases value <;> decide
  | num number => exact numberText_visible number
  | str text => exact absurd rfl (shown text)
  | arr items =>
      cases items with
      | nil => decide
      | cons item rest => simp [compact, Text.isBlankText_append, bracket]
  | obj members =>
      cases members with
      | nil => decide
      | cons member rest => simp [compact, Text.isBlankText_append, brace]

theorem startNextLocation_eq_empty (value : Json) :
    startNextLocation value = "" ↔ value.IsBlank := by
  have shown (value : Json) (text : ∀ text, value ≠ .str text) :
      locationKey value.compact ≠ "" := by
    rw [ne_eq, locationKey_eq_empty, value.compact_visible text]
    exact Bool.false_ne_true
  cases value with
  | null => exact ⟨fun _ => .inl rfl, fun _ => rfl⟩
  | str text =>
      have own : startNextLocation (.str text) = locationKey text := rfl
      rw [own, locationKey_eq_empty, IsBlank]
      simp
  | _ =>
      refine iff_of_false (shown _ nofun) ?_
      rintro (null | ⟨text, same, _⟩)
      · cases null
      · cases same

end Json

def offer? (placed : Json.Placed) : Option (List String × String) :=
  (Json.member? startNextKey placed.2).bind fun named =>
    if startNextLocation named = "" then none else some (placed.1, startNextLocation named)

theorem offer?_eq_some (placed : Json.Placed) (offer : List String × String) :
    offer? placed = some offer ↔ ∃ named, Json.member? startNextKey placed.2 = some named ∧
      ¬ named.IsBlank ∧ offer = (placed.1, startNextLocation named) := by
  rw [offer?, Option.bind_eq_some_iff]
  refine exists_congr fun named => and_congr_right fun _ => ?_
  rw [← named.startNextLocation_eq_empty]
  split
  case isTrue blank => simp [blank]
  case isFalse visible => simp [visible, eq_comm]

def offers (value : Json) : List (List String × String) :=
  value.places.filterMap offer?

theorem startNextRefs_eq (document : Document) : startNextRefs document =
    (offers document.value).map fun (path, key) => ⟨document.file, Json.written path, key⟩ := by
  rw [startNextRefs, offers, Json.objects_eq, List.filterMap_map, List.map_filterMap]
  refine List.filterMap_congr fun (path, members) _ => ?_
  simp only [Function.comp_apply, Json.writtenAt, String.empty_append, offer?]
  cases Json.member? startNextKey members with
  | none => rfl
  | some named =>
      rw [Option.bind_some]
      dsimp only
      split <;> rfl

theorem mem_offers (value : Json) (distinct : value.isDistinct = true) (path : List String)
    (key : String) : (path, key) ∈ offers value ↔ ∃ members named,
      value.at? path = some (.obj members) ∧ Json.member? startNextKey members = some named ∧
        ¬ named.IsBlank ∧ key = startNextLocation named := by
  simp only [offers, List.mem_filterMap, offer?_eq_some, Prod.exists, Prod.mk.injEq]
  constructor
  · rintro ⟨path, members, listed, named, found, visible, rfl, rfl⟩
    exact ⟨members, named, (value.mem_places distinct path members).mp listed, found, visible, rfl⟩
  · rintro ⟨members, named, leads, found, visible, rfl⟩
    exact ⟨path, members, (value.mem_places distinct path members).mpr leads, named, found, visible,
      rfl, rfl⟩

theorem offers_nodup (value : Json) (distinct : value.isDistinct = true) :
    ((offers value).map Prod.fst).Nodup := by
  rw [List.Nodup, List.pairwise_map, offers]
  refine (List.pairwise_map.mp (value.places_nodup distinct)).filterMap offer? ?_
  intro placed other apart offer made another also
  obtain ⟨_, _, _, rfl⟩ := (offer?_eq_some placed offer).mp made
  obtain ⟨_, _, _, rfl⟩ := (offer?_eq_some other another).mp also
  exact apart

def proseAt (placed : Json.Placed) : List (List String × String) :=
  proseKeys.filterMap fun key =>
    ((Json.member? key placed.2).bind Json.str?).map fun text => (placed.1 ++ [key], text)

theorem Json.str?_eq_some (value : Json) (text : String) :
    value.str? = some text ↔ value = .str text := by
  cases value <;> simp [str?]

theorem mem_proseAt (placed : Json.Placed) (path : List String) (text : String) :
    (path, text) ∈ proseAt placed ↔ ∃ key ∈ proseKeys,
      Json.member? key placed.2 = some (.str text) ∧ path = placed.1 ++ [key] := by
  simp only [proseAt, List.mem_filterMap, Option.map_eq_some_iff, Option.bind_eq_some_iff,
    Json.str?_eq_some, Prod.mk.injEq]
  constructor
  · rintro ⟨key, listed, _, ⟨_, found, rfl⟩, rfl, rfl⟩
    exact ⟨key, listed, found, rfl⟩
  · rintro ⟨key, listed, found, rfl⟩
    exact ⟨key, listed, text, ⟨_, found, rfl⟩, rfl, rfl⟩

def proseTexts (value : Json) : List (List String × String) :=
  value.places.flatMap proseAt

theorem Json.written_concat (path : List String) (key : String) :
    written (path ++ [key]) = written path ++ "/" ++ key := by
  apply String.toList_inj.mp
  simp [toList_written]

theorem inlineIds_eq (pattern : Automaton) (document : Document) :
    inlineIds pattern document = (proseTexts document.value).flatMap fun (path, text) =>
      (pattern.findAll text).map fun id => ⟨document.file, Json.written path, id⟩ := by
  rw [inlineIds, proseTexts, Json.objects_eq, List.flatMap_map, List.flatMap_assoc]
  refine List.flatMap_congr fun (path, members) _ => ?_
  simp only [Json.writtenAt, String.empty_append, proseAt]
  induction proseKeys with
  | nil => rfl
  | cons key rest ih =>
      rw [List.flatMap_cons, List.filterMap_cons, ih]
      cases Json.member? key members with
      | none => rfl
      | some named =>
          cases named with
          | str text => simp [Json.str?, Json.written_concat]
          | _ => rfl

theorem Json.at?_concat (path : List String) (key : String) (value : Json) :
    value.at? (path ++ [key]) = (value.at? path).bind fun inner => inner.branches.lookup key := by
  induction path generalizing value with
  | nil => simp [at?, Option.bind_some]
  | cons first rest ih =>
      rw [List.cons_append, at?, at?, Option.bind_assoc]
      exact congrArg _ (funext fun inner => ih inner)

theorem index_not_prose (index : Nat) : toString index ∉ proseKeys := by
  have digits : (toString index).toList = Nat.toDigits 10 index := Nat.toList_repr
  intro listed
  have lettered : ∀ key ∈ proseKeys, key.toList.any (!·.isDigit) = true := by decide
  obtain ⟨c, inside, letter⟩ := List.any_eq_true.mp (lettered _ listed)
  rw [digits] at inside
  rw [Nat.isDigit_of_mem_toDigits (by decide) (by decide) inside] at letter
  cases letter

theorem lookup_prose (value inner : Json) (key : String) (listed : key ∈ proseKeys) :
    value.branches.lookup key = some inner ↔
      ∃ members, value = .obj members ∧ Json.member? key members = some inner := by
  cases value with
  | arr items =>
      have none : (Json.arr items).branches.lookup key = none := by
        rw [List.lookup_eq_none_iff]
        intro branch own
        obtain ⟨⟨item, index⟩, _, rfl⟩ := List.mem_map.mp own
        rw [bne_iff_ne]
        rintro rfl
        exact index_not_prose index listed
      simp [none]
  | obj members => simp [Json.branches, Json.member?]
  | _ => simp [Json.branches]

theorem mem_proseTexts (value : Json) (distinct : value.isDistinct = true) (path : List String)
    (text : String) : (path, text) ∈ proseTexts value ↔
      value.at? path = some (.str text) ∧ ∃ parent, ∃ key ∈ proseKeys, path = parent ++ [key] := by
  simp only [proseTexts, List.mem_flatMap, mem_proseAt, Prod.exists, value.mem_places distinct]
  constructor
  · rintro ⟨parent, members, leads, key, listed, found, rfl⟩
    refine ⟨?_, parent, key, listed, rfl⟩
    rw [Json.at?_concat, leads, Option.bind_some, lookup_prose _ _ _ listed]
    exact ⟨members, rfl, found⟩
  · rintro ⟨leads, parent, key, listed, rfl⟩
    rw [Json.at?_concat, Option.bind_eq_some_iff] at leads
    obtain ⟨_, outer, inner⟩ := leads
    obtain ⟨members, rfl, found⟩ := (lookup_prose _ _ _ listed).mp inner
    exact ⟨parent, members, outer, key, listed, found, rfl⟩

theorem proseAt_nodup (placed : Json.Placed) : ((proseAt placed).map Prod.fst).Nodup := by
  rw [List.Nodup, List.pairwise_map, proseAt]
  have keys : proseKeys.Nodup := by decide
  refine List.Pairwise.filterMap _ ?_ keys
  intro key other apart first made second also same
  obtain ⟨_, _, rfl⟩ := Option.map_eq_some_iff.mp made
  obtain ⟨_, _, rfl⟩ := Option.map_eq_some_iff.mp also
  exact apart (List.singleton_inj.mp (List.append_cancel_left same))

theorem proseTexts_nodup (value : Json) (distinct : value.isDistinct = true) :
    ((proseTexts value).map Prod.fst).Nodup := by
  rw [proseTexts, List.map_flatMap, List.nodup_flatMap]
  refine ⟨fun placed _ => proseAt_nodup placed, ?_⟩
  refine (List.pairwise_map.mp (value.places_nodup distinct)).imp fun apart => ?_
  intro path here there
  obtain ⟨⟨_, _⟩, first, rfl⟩ := List.mem_map.mp here
  obtain ⟨⟨_, _⟩, second, same⟩ := List.mem_map.mp there
  obtain ⟨_, _, _, rfl⟩ := (mem_proseAt ..).mp first
  obtain ⟨_, _, _, rfl⟩ := (mem_proseAt ..).mp second
  exact apart (List.append_inj_left' same rfl).symm

namespace Automaton

theorem mem_matchesIn (automaton : Automaton) (behind : Bool) (before : Option Char)
    (chars found : List Char) (listed : found ∈ automaton.matchesIn behind before chars) :
    found <:+: chars := by
  fun_induction matchesIn automaton behind before chars with
  | case1 => rw [List.mem_singleton.mp listed]
  | case2 => cases listed
  | case3 => cases listed
  | case4 before c rest result _ _ others ih =>
      exact (ih listed).trans (List.suffix_cons c rest).isInfix
  | case5 behind before c rest result _ _ others _ ih =>
      rcases List.mem_cons.mp listed with rfl | later
      · exact List.nil_infix
      · exact (ih later).trans (List.suffix_cons c rest).isInfix
  | case6 behind before c rest result _ n _ passed ih =>
      rcases List.mem_cons.mp listed with rfl | later
      · have inside : passed <+: c :: rest :=
          List.cons_prefix_cons.mpr ⟨rfl, List.take_prefix n rest⟩
        exact (List.drop_suffix ..).isInfix.trans inside.isInfix
      · exact (ih later).trans
          ((List.drop_suffix n rest).trans (List.suffix_cons c rest)).isInfix

theorem mem_findAll (automaton : Automaton) (text id : String)
    (listed : id ∈ automaton.findAll text) : id.toList <:+: text.toList := by
  obtain ⟨found, own, rfl⟩ := List.mem_map.mp listed
  rw [String.toList_ofList]
  exact automaton.mem_matchesIn false none text.toList found own

end Automaton

/-- The scans of a document that was read find each object that names the location of a next quest
once, and the matches in each text of prose once, with the places as the walk writes them. By the
standard a place so written is read as that place exactly if its keys are plain; and two places are
written alike exactly if cutting their keys at slashes leaves the same pieces. -/
theorem hits_placed (pattern : Automaton) (document : Document) (json : Json)
    (read : json.free? = some document.value) :
    (∃ objects : List (List String × String), (objects.map Prod.fst).Nodup ∧
      (∀ path key, (path, key) ∈ objects ↔ ∃ members named,
        document.value.at? path = some (.obj members) ∧
          Json.member? startNextKey members = some named ∧ ¬ named.IsBlank ∧
            key = startNextLocation named) ∧
      startNextRefs document = objects.map fun (path, key) =>
        ⟨document.file, Json.written path, key⟩) ∧
    (∃ texts : List (List String × String), (texts.map Prod.fst).Nodup ∧
      (∀ path text, (path, text) ∈ texts ↔ document.value.at? path = some (.str text) ∧
        ∃ parent, ∃ key ∈ proseKeys, path = parent ++ [key]) ∧
      (∀ text, ∀ id ∈ pattern.findAll text, id.toList <:+: text.toList) ∧
      inlineIds pattern document = texts.flatMap fun (path, text) =>
        (pattern.findAll text).map fun id => ⟨document.file, Json.written path, id⟩) ∧
    (∀ path, Json.tokens? (Json.written path) = some path ↔ ∀ key ∈ path, Json.IsPlain key) ∧
    (∀ path other, Json.written path = Json.written other ↔
      Json.pieces path = Json.pieces other) := by
  have distinct := json.free?_isDistinct document.value read
  refine ⟨⟨offers document.value, ?_, ?_, ?_⟩, ⟨proseTexts document.value, ?_, ?_, ?_, ?_⟩,
    Json.tokens?_written, Json.written_eq_iff⟩
  · exact offers_nodup document.value distinct
  · exact mem_offers document.value distinct
  · exact startNextRefs_eq document
  · exact proseTexts_nodup document.value distinct
  · exact mem_proseTexts document.value distinct
  · exact pattern.mem_findAll
  · exact inlineIds_eq pattern document

def bridge : Json :=
  .obj [("choices", .arr [.null, .obj [(startNextKey, .str "Mill"), ("text", .str "Toll 7")]])]

def digits : Automaton :=
  ⟨#[.eat ⟨[⟨0x30, 0x39⟩]⟩ 1, .done], 0⟩

theorem digits_toll : digits.findAll "Toll 7" = ["7"] := by
  have spelled : "Toll 7".toList = ['T', 'o', 'l', 'l', ' ', '7'] := by decide
  have first : digits.search? none ['T', 'o', 'l', 'l', ' ', '7'] = some ⟨5, 1⟩ := by
    simp [digits, Automaton.search?, Automaton.follow, Automaton.started, Automaton.front,
      Automaton.reach, Automaton.Front.best, Automaton.Front.eat, CharSet.has, CharSet.spansHave]
  have last : digits.search? (some '7') [] = none := by
    simp [digits, Automaton.search?, Automaton.follow, Automaton.started, Automaton.front,
      Automaton.reach, Automaton.Front.best]
  rw [Automaton.findAll, spelled, Automaton.matchesIn, first]
  simp only [List.take, List.drop, List.getLast?_cons_cons, List.getLast?_singleton]
  rw [Automaton.matchesIn, last]
  decide

theorem hits_placed_bridge :
    let document : Document := ⟨"dlg_bridge.json", bridge⟩
    bridge.free? = some document.value ∧
      ⟨"dlg_bridge.json", "/choices/1", "mill"⟩ ∈ startNextRefs document ∧
      ⟨"dlg_bridge.json", "/choices/1/text", "7"⟩ ∈ inlineIds digits document ∧
      Json.tokens? "/choices/1" = some ["choices", "1"] := by
  intro document
  have read : bridge.free? = some document.value := by decide +kernel
  obtain ⟨⟨objects, _, object, refs⟩, ⟨texts, _, prose, _, hits⟩, plain, _⟩ :=
    hits_placed digits document bridge read
  have leads : document.value.at? ["choices", "1"] =
      some (.obj [(startNextKey, .str "Mill"), ("text", .str "Toll 7")]) := by
    decide +kernel
  have text : document.value.at? ["choices", "1", "text"] = some (.str "Toll 7") := by
    decide +kernel
  refine ⟨read, ?_, ?_, ?_⟩
  · have visible : ¬ (Json.str "Mill").IsBlank := by
      rw [← Json.startNextLocation_eq_empty]
      decide +kernel
    have own := (object ["choices", "1"] "mill").mpr
      ⟨_, .str "Mill", leads, rfl, visible, by decide +kernel⟩
    rw [refs]
    exact List.mem_map.mpr ⟨_, own, by decide +kernel⟩
  · have own := (prose ["choices", "1", "text"] "Toll 7").mpr
      ⟨text, ["choices", "1"], "text", by decide, rfl⟩
    rw [hits]
    refine List.mem_flatMap.mpr ⟨_, own, List.mem_map.mpr ⟨"7", ?_, by decide +kernel⟩⟩
    simp [digits_toll]
  · exact (plain ["choices", "1"]).mpr (by decide)

def fork : Json :=
  .obj [("a", .obj [("b", .obj [(startNextKey, .str "Mill")])]),
    ("a/b", .obj [(startNextKey, .str "Inn")])]

/-- They are found at different places, but what is found says the same place, and that leads to the
first of them. -/
theorem fork_in_one_place :
    startNextRefs ⟨"dlg_fork.json", fork⟩ =
      [⟨"dlg_fork.json", "/a/b", "mill"⟩, ⟨"dlg_fork.json", "/a/b", "inn"⟩] ∧
    fork.resolve? "/a/b" = some (.obj [(startNextKey, .str "Mill")]) ∧
    fork.at? ["a/b"] = some (.obj [(startNextKey, .str "Inn")]) := by
  refine ⟨by decide +kernel, by decide +kernel, by decide +kernel⟩

end QuestWeb
