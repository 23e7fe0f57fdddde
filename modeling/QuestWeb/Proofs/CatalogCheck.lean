import QuestWeb.Catalog

/-!
What the check of a catalog lets through. It finds no defect exactly in the catalogs whose banks
hold a word wherever one is picked, whose domains are named apart, and whose keystone can be opened.
-/

namespace QuestWeb.Catalog

structure Domain.Accepted (domain : Domain) : Prop where
  upper : isUpperKey domain.key = true
  free : domain.key ≠ "META"
  plain : isPlainClause domain.clause = true
  palette : domain.palette ≠ []
  speakers : domain.speakers ≠ []
  nouns : domain.nouns ≠ []

structure Accepted (catalog : Catalog) : Prop where
  domains : catalog.domains ≠ []
  regions : catalog.regions ≠ []
  verbs : catalog.verbs ≠ []
  arc : 0 < catalog.arcLength
  seals : catalog.keystoneSeals ≤ catalog.domains.length
  proceed : catalog.dialog.proceed ≠ []
  close : catalog.dialog.close ≠ []
  enter : catalog.dialog.keystone.enter ≠ []
  each : ∀ domain ∈ catalog.domains, domain.Accepted
  keys : (catalog.domains.map (·.key)).Nodup
  clauses : (catalog.domains.map (·.clause)).Nodup
  flavours : ∀ beat ∈ catalog.beats, beat.2.flavour < catalog.domains.length

theorem firstDefect?_eq_none (checks : List (Bool × Defect)) :
    firstDefect? checks = none ↔ ∀ check ∈ checks, check.1 = false := by
  induction checks with
  | nil => simp [firstDefect?]
  | cons check rest ih =>
      obtain ⟨found, defect⟩ := check
      cases found <;> simp [firstDefect?, ih]

theorem outlineDefect?_eq_none (catalog : Catalog) :
    catalog.outlineDefect? = none ↔
      catalog.domains ≠ [] ∧ catalog.regions ≠ [] ∧ catalog.verbs ≠ [] ∧ 0 < catalog.arcLength ∧
        catalog.keystoneSeals ≤ catalog.domains.length ∧
        (catalog.dialog.proceed ≠ [] ∧ catalog.dialog.close ≠ []) ∧
        catalog.dialog.keystone.enter ≠ [] := by
  rw [outlineDefect?, firstDefect?_eq_none]
  simp [Nat.pos_iff_ne_zero]

theorem Domain.defect?_eq_none (domain : Domain) (keys clauses : List String) :
    domain.defect? keys clauses = none ↔
      domain.Accepted ∧ domain.key ∉ keys ∧ domain.clause ∉ clauses := by
  rw [Domain.defect?, firstDefect?_eq_none]
  simp only [List.mem_cons, List.not_mem_nil, or_false, forall_eq_or_imp, forall_eq,
    Bool.not_eq_eq_eq_not, Bool.not_false, beq_eq_false_iff_ne, List.contains_eq_mem,
    decide_eq_false_iff_not, List.isEmpty_eq_false_iff]
  constructor
  · rintro ⟨upper, free, plain, key, clause, palette, speakers, nouns⟩
    exact ⟨⟨upper, free, plain, palette, speakers, nouns⟩, key, clause⟩
  · rintro ⟨⟨upper, free, plain, palette, speakers, nouns⟩, key, clause⟩
    exact ⟨upper, free, plain, key, clause, palette, speakers, nouns⟩

theorem domainDefect?_eq_none (keys clauses : List String) (domains : List Domain) :
    domainDefect? keys clauses domains = none ↔
      (∀ domain ∈ domains, domain.Accepted ∧ domain.key ∉ keys ∧ domain.clause ∉ clauses) ∧
        (domains.map (·.key)).Nodup ∧ (domains.map (·.clause)).Nodup := by
  induction domains generalizing keys clauses with
  | nil => simp [domainDefect?]
  | cons domain rest ih =>
      have own := domain.defect?_eq_none keys clauses
      cases defect : domain.defect? keys clauses with
      | some found =>
          rw [defect] at own
          simp only [domainDefect?, defect, reduceCtorEq, List.mem_cons, forall_eq_or_imp,
            false_iff]
          rintro ⟨⟨accepted, _⟩, _⟩
          exact absurd (own.mpr accepted) (by simp)
      | none =>
          have accepted := own.mp defect
          -- Keys and clauses are added with every domain, so a repeated one is met again.
          simp only [domainDefect?, defect, ih, List.mem_cons, forall_eq_or_imp, accepted,
            not_or, List.map_cons, List.nodup_cons, List.mem_map, not_exists, not_and, true_and,
            and_true, not_false_eq_true]
          constructor
          · rintro ⟨others, keysNodup, clausesNodup⟩
            refine ⟨fun other listed => ⟨(others other listed).1, (others other listed).2.1.2,
              (others other listed).2.2.2⟩, ⟨fun other listed same => ?_, keysNodup⟩,
              fun other listed same => ?_, clausesNodup⟩
            · exact (others other listed).2.1.1 same
            · exact (others other listed).2.2.1 same
          · rintro ⟨others, ⟨key, keysNodup⟩, clause, clausesNodup⟩
            refine ⟨fun other listed => ⟨(others other listed).1, ⟨key other listed,
              (others other listed).2.1⟩, clause other listed, (others other listed).2.2⟩,
              keysNodup, clausesNodup⟩

theorem flavourDefect?_eq_none (catalog : Catalog) :
    catalog.flavourDefect? = none ↔
      ∀ beat ∈ catalog.beats, beat.2.flavour < catalog.domains.length := by
  rw [flavourDefect?, firstDefect?_eq_none, List.forall_mem_map]
  simp only [decide_eq_false_iff_not, Nat.not_le]

theorem defect?_eq_none (catalog : Catalog) : catalog.defect? = none ↔ catalog.Accepted := by
  have first : catalog.defect? = none ↔ catalog.outlineDefect? = none ∧
      domainDefect? [] [] catalog.domains = none ∧ catalog.flavourDefect? = none := by
    unfold defect?
    cases catalog.outlineDefect? <;> cases domainDefect? [] [] catalog.domains <;> simp
  rw [first, outlineDefect?_eq_none, domainDefect?_eq_none, flavourDefect?_eq_none]
  constructor
  · rintro ⟨⟨domains, regions, verbs, arc, seals, ⟨proceed, close⟩, enter⟩,
      ⟨each, keys, clauses⟩, flavours⟩
    exact ⟨domains, regions, verbs, arc, seals, proceed, close, enter,
      fun domain listed => (each domain listed).1, keys, clauses, flavours⟩
  · intro accepted
    exact ⟨⟨accepted.domains, accepted.regions, accepted.verbs, accepted.arc, accepted.seals,
      ⟨accepted.proceed, accepted.close⟩, accepted.enter⟩,
      ⟨fun domain listed => ⟨accepted.each domain listed, by simp, by simp⟩, accepted.keys,
        accepted.clauses⟩, accepted.flavours⟩

theorem validate_eq_ok (catalog : Catalog) : catalog.validate = .ok () ↔ catalog.Accepted := by
  rw [← defect?_eq_none, validate]
  cases catalog.defect? <;> simp

end QuestWeb.Catalog
