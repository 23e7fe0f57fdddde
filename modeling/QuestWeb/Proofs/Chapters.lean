import QuestWeb.Proofs.Run
import QuestWeb.Proofs.Script

/-!
Webs role by role. Each role of the layout has one quest record and one dialog, both under the
number of the role.
-/

namespace QuestWeb.Web

structure Recorded (catalog : Catalog) (role : Role) (quest : Quest) : Prop where
  id : quest.id = questId catalog role
  num : quest.num = catalog.layout.num role
  domain : quest.domain = authority catalog role
  dependencies : quest.dependencies = catalog.layout.dependencies role
  availability : quest.availability = availability catalog role
  outcomes : quest.outcomes = outcomes catalog role

theorem quest_recorded (catalog : Catalog) (role : Role) (words : Words) (record : Quest)
    (made : quest catalog role words = .ok record) : Recorded catalog role record := by
  unfold quest at made
  obtain ⟨telling, _, made⟩ := (bind_eq_ok _ _ _).mp made
  obtain ⟨premise, _, made⟩ := (bind_eq_ok _ _ _).mp made
  rw [pure_eq_ok] at made
  subst made
  constructor <;> rfl

def plan (catalog : Catalog) (role : Role) : DialogPlan :=
  ⟨catalog, role, words catalog role⟩

def entries (web : Web) : List (QuestNum × Dialog) :=
  (web.quests.map (·.num)).zip web.dialogs

/-- A web as it is made from a catalog, its quests still fitting into quest numbers. -/
structure Made (catalog : Catalog) (web : Web) : Prop where
  accepted : catalog.Accepted
  fits : catalog.layout.total < UInt32.size
  nums : web.quests.map (·.num) = catalog.layout.roles.map catalog.layout.num
  recorded : ∀ quest ∈ web.quests, ∃ role, catalog.layout.Has role ∧ Recorded catalog role quest
  record : ∀ role, catalog.layout.Has role → ∃ quest ∈ web.quests, Recorded catalog role quest
  scripted : ∀ entry ∈ web.entries, ∃ role,
    catalog.layout.Has role ∧ entry.1 = catalog.layout.num role ∧
      (plan catalog role).Scripted entry.2
  script : ∀ role, catalog.layout.Has role →
    ∃ entry ∈ web.entries, entry.1 = catalog.layout.num role

theorem chapter_ok (catalog : Catalog) (role : Role) (quest : Quest) (dialog : Dialog)
    (made : chapter catalog role = .ok (quest, dialog)) :
    Recorded catalog role quest ∧ (plan catalog role).build = .ok dialog := by
  unfold chapter at made
  obtain ⟨record, recorded, made⟩ := (bind_eq_ok _ _ _).mp made
  obtain ⟨told, built, made⟩ := (bind_eq_ok _ _ _).mp made
  rw [pure_eq_ok, Prod.mk.injEq] at made
  obtain ⟨rfl, rfl⟩ := made
  exact ⟨quest_recorded catalog role _ record recorded, built⟩

theorem chapterAt_ok (catalog : Catalog) (place : Nat) (role : Role) (made : Quest × Dialog) :
    chapterAt catalog place role = .ok made ↔
      catalog.layout.role? (.ofPosition place) = some role ∧ chapter catalog role = .ok made := by
  unfold chapterAt
  split
  · simp [*]
  · simp [*]

/-- There is no quest number for the place behind the last one, so a web that is made ends
before. -/
theorem generate_ok (catalog : Catalog) (web : Web) (generated : generate catalog = .ok web) :
    catalog.Accepted ∧ catalog.layout.total < UInt32.size ∧
      ∃ chapters, catalog.layout.roles.mapM (chapter catalog) = .ok chapters ∧
        web = ⟨chapters.map (·.1), chapters.map (·.2)⟩ := by
  unfold generate at generated
  cases checked : catalog.validate with
  | error defect => simp [checked] at generated
  | ok checkedOk =>
      simp only [checked, catalog.layout.roles_length, ↓reduceIte] at generated
      obtain ⟨chapters, made, same⟩ := (bind_eq_ok _ _ _).mp generated
      refine ⟨catalog.validate_eq_ok.mp checked, ?_, chapters, ?_,
        ((pure_eq_ok _ _).mp same).symm⟩
      · apply Nat.lt_of_not_le
        intro large
        have inside : UInt32.size - 1 < catalog.layout.roles.length := by
          rw [catalog.layout.roles_length]
          exact Nat.lt_of_lt_of_le (by decide) large
        obtain ⟨_, _, placed⟩ := mapM_ok_target _ _ _ made
          (catalog.layout.roles[UInt32.size - 1], UInt32.size - 1)
          (List.mk_mem_zipIdx_iff_getElem?.mpr (List.getElem?_eq_getElem inside))
        have named := ((chapterAt_ok _ _ _ _).mp placed).1
        have unnumbered : (QuestNum.ofPosition (UInt32.size - 1)).position? = none := by decide
        rw [WebLayout.role?, unnumbered] at named
        simp at named
      · have apart := mapM_ok_told _ (chapter catalog) Prod.fst
          (fun entry told named => ((chapterAt_ok catalog entry.2 entry.1 told).mp named).2)
          _ _ made
        rwa [List.zipIdx_map_fst] at apart

theorem generate_made (catalog : Catalog) (web : Web) (generated : generate catalog = .ok web)
    (fits : catalog.layout.total < UInt32.size) : Made catalog web := by
  obtain ⟨accepted, _, chapters, made, rfl⟩ := generate_ok catalog web generated
  -- Quests and dialogs were taken apart after they were made, and are put together again.
  have zipped : entries ⟨chapters.map (·.1), chapters.map (·.2)⟩ =
      chapters.map fun chapter => (chapter.1.num, chapter.2) := by
    rw [entries, List.map_map]
    exact List.zip_map'
  have each (chapter : Quest × Dialog) (member : chapter ∈ chapters) :
      ∃ role, catalog.layout.Has role ∧ Recorded catalog role chapter.1 ∧
        (plan catalog role).Scripted chapter.2 := by
    obtain ⟨role, listed, told⟩ := mapM_ok_source _ _ _ made chapter member
    obtain ⟨recorded, built⟩ := chapter_ok catalog role chapter.1 chapter.2 told
    have has := (catalog.layout.mem_roles role).mp listed
    exact ⟨role, has, recorded,
      DialogPlan.build_scripted (plan catalog role) accepted fits has chapter.2 built⟩
  have target (role : Role) (has : catalog.layout.Has role) :
      ∃ chapter ∈ chapters, Recorded catalog role chapter.1 := by
    obtain ⟨chapter, member, told⟩ := mapM_ok_target _ _ _ made role
      ((catalog.layout.mem_roles role).mpr has)
    exact ⟨chapter, member, (chapter_ok catalog role chapter.1 chapter.2 told).1⟩
  refine ⟨accepted, fits, ?_, ?_, ?_, ?_, ?_⟩
  · rw [List.map_map]
    exact mapM_ok_map _ catalog.layout.num _
      (fun role chapter told => (chapter_ok catalog role chapter.1 chapter.2 told).1.num)
      _ _ made
  · intro quest listed
    obtain ⟨chapter, member, rfl⟩ := List.mem_map.mp listed
    obtain ⟨role, has, recorded, _⟩ := each chapter member
    exact ⟨role, has, recorded⟩
  · intro role has
    obtain ⟨chapter, member, recorded⟩ := target role has
    exact ⟨chapter.1, List.mem_map_of_mem member, recorded⟩
  · rw [zipped]
    intro entry listed
    obtain ⟨chapter, member, rfl⟩ := List.mem_map.mp listed
    obtain ⟨role, has, recorded, scripted⟩ := each chapter member
    exact ⟨role, has, recorded.num, scripted⟩
  · rw [zipped]
    intro role has
    obtain ⟨chapter, member, recorded⟩ := target role has
    exact ⟨_, List.mem_map_of_mem member, recorded.num⟩

namespace Made

variable {catalog : Catalog} {web : Web} (made : Made catalog web)

include made

theorem length : web.quests.length = catalog.layout.total := by
  have lengths := congrArg List.length made.nums
  simpa [catalog.layout.roles_length] using lengths

theorem distinct : (web.quests.map (·.num)).Nodup := by
  rw [made.nums]
  have places : (catalog.layout.roles.map catalog.layout.position).Nodup := by
    rw [catalog.layout.roles_position]
    exact List.nodup_range
  refine nodup_map catalog.layout.roles catalog.layout.position catalog.layout.num ?_ places
  intro role listed other also same
  exact congrArg catalog.layout.position (catalog.layout.num_inj made.fits role other
    ((catalog.layout.mem_roles role).mp listed) ((catalog.layout.mem_roles other).mp also) same)

theorem find?_num (role : Role) (has : catalog.layout.Has role) :
    ∃ quest ∈ web.quests, Recorded catalog role quest ∧
      web.quests.find? (·.num == catalog.layout.num role) = some quest := by
  obtain ⟨quest, listed, recorded⟩ := made.record role has
  refine ⟨quest, listed, recorded, ?_⟩
  rw [← recorded.num]
  exact Engine.find?_num web.quests made.distinct quest listed

end Made

def dialogTable (web : Web) : DialogTable :=
  .ofQuestDialogs web.entries

def engine (web : Web) (state : GameState) : Engine DialogTable :=
  .new web.dialogTable web.quests state

namespace Made

variable {catalog : Catalog} {web : Web} (made : Made catalog web)

include made

theorem loaded (key : DialogKey) (dialog : Dialog)
    (found : web.dialogTable.get? key = some dialog) :
    ∃ role, catalog.layout.Has role ∧ key = .quest (catalog.layout.num role) ∧
      (plan catalog role).Scripted dialog := by
  rw [dialogTable, DialogTable.ofQuestDialogs_eq] at found
  obtain ⟨entry, listed, same⟩ := List.mem_map.mp (DialogTable.mem_of_get? _ _ _ found)
  obtain ⟨role, has, num, scripted⟩ := made.scripted entry listed
  obtain ⟨rfl, rfl⟩ := Prod.mk.inj same
  exact ⟨role, has, by rw [num], scripted⟩

theorem load (role : Role) (has : catalog.layout.Has role) :
    ∃ dialog, web.dialogTable.get? (.quest (catalog.layout.num role)) = some dialog ∧
      (plan catalog role).Scripted dialog := by
  obtain ⟨entry, listed, num⟩ := made.script role has
  have key : DialogKey.quest (catalog.layout.num role) ∈
      (web.entries.map fun entry => (DialogKey.quest entry.1, entry.2)).map (·.1) := by
    rw [List.map_map]
    exact List.mem_map.mpr ⟨entry, listed, by simp [num]⟩
  obtain ⟨dialog, found⟩ := DialogTable.get?_of_mem _ _ key
  rw [← DialogTable.ofQuestDialogs_eq] at found
  refine ⟨dialog, found, ?_⟩
  obtain ⟨other, also, same, scripted⟩ := made.loaded _ _ found
  rw [DialogKey.quest.injEq] at same
  rwa [catalog.layout.num_inj made.fits role other has also same]

theorem playable (key : DialogKey) (dialog : Dialog)
    (found : web.dialogTable.get? key = some dialog) : dialog.Playable := by
  obtain ⟨_, _, _, scripted⟩ := made.loaded key dialog found
  exact scripted.playable

end Made

def triad : Catalog :=
  let words (text : String) : Template := ⟨[.literal text]⟩
  let told (name : String) : Catalog.Beat := ⟨name, words "walk", 0, none⟩
  let domain (key clause title : String) : Catalog.Domain :=
    ⟨key, clause, title, "patience", "haste", "wait", "dawn", ["grey"], ["Miller"], ["Gate"]⟩
  { arcLength := 2
    keystoneSeals := 2
    regions := [⟨"vale", "The Vale"⟩, ⟨"ford", "The Ford"⟩]
    verbs := ["Mend"]
    domains := [domain "ASH" "ash" "Ash", domain "BONE" "bone" "Bone", domain "TIDE" "tide" "Tide"]
    prologue := told "The Road"
    gates := ⟨told "The Keystone", told "The Hearing", told "The Price", told "The End"⟩
    quest := ⟨"Main", 20, 25, ["main"], ["Walk"], ["xp:1"], "talk", "go on", ["stay"], "none"⟩
    prose := {
      premise := ⟨[.slot "beat", .literal " in ", .slot "region"]⟩
      defaultBeat := words "A bell rings."
      invitationName := ⟨[.literal "Invitation: ", .slot "title"]⟩
      invitationMechanic := words "listen"
      invitationBeat := words "A messenger waits."
      arcName := ⟨[.slot "name_verb", .literal " the ", .slot "name_noun"]⟩
      arcMechanic := words "help"
      arcBeat := words "A rule is broken."
      sealMechanic := words "swear"
      sealBeat := words "A seal is pressed." }
    dialog := {
      intro := words "You are late.", hingeOpen := words "Choose.", hingeLine := ⟨[.slot "title"]⟩
      hingeClose := words "Well?", vow := words "Say it.", closing := words "It is done."
      narrator := "Narrator", proceed := [words "Go on."], clauseChoice := words "Bind me."
      answerFor := words "Yes.", answerAgainst := words "No.", invokeClause := words "As sworn."
      close := [words "Leave."]
      keystone := ⟨"Keystone", words "Try.", [words "Enter."], words "Measured.", words "Take it."⟩
      hearing := ⟨"Censor", words "Speak.", words "I yield.", words "I defy.", words "So be it.",
        words "Sign."⟩
      finale := ⟨"Herald", words "Choose a crown.", ⟨[.slot "ending"]⟩, words " The end."⟩ } }

theorem generate_triad : ∃ web, generate triad = .ok web := by
  have made : (generate triad).isOk = true := by decide +kernel
  cases generated : generate triad with
  | ok web => exact ⟨web, rfl⟩
  | error defect => simp [generated, Except.isOk, Except.toBool] at made

end QuestWeb.Web
