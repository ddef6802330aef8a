import ReleaseAnalysis.Proofs.Rule.Formats

/-!
# What the entries of a configuration give

The entries of a document have distinct names, so a configuration is given by the values of two
names, each of which may be missing (`Config.ofText_eq_ok_iff`). The rules stand in the
configuration in the order of the document.

So a document with an array of tables as its rules, and texts that spell the same tables, mean the
same rules (`Config.ofText_rules`): the configuration has the rules of the texts, one by one, and
there is none if one of the texts gives no rule.
-/

set_option autoImplicit false

namespace ReleaseAnalysis

namespace Config

/-! ## Values under a name -/

section Gives

variable {α : Type} {read : Toml.Value → Except DocumentFault α} {name : String}
  {missing result : α} {entry : String × Toml.Value} {rest : Toml.Entries}

/-- What entries give under a name: what its value is read as, or what stands for a missing one. -/
def Gives (read : Toml.Value → Except DocumentFault α) (name : String) (missing : α)
    (entries : Toml.Entries) (result : α) : Prop :=
  match entries.lookup name with
  | some value => read value = .ok result
  | none => result = missing

theorem gives_iff_of_lookup {entries : Toml.Entries} {value : Toml.Value}
    (found : entries.lookup name = some value) :
    Gives read name missing entries result ↔ read value = .ok result := by
  rw [Gives, found]

/-- A name that no entry has is missing. -/
theorem gives_iff_of_fresh (fresh : name ∉ rest.map Prod.fst) :
    Gives read name missing rest result ↔ result = missing := by
  have absent : rest.lookup name = none := by
    refine List.lookup_eq_none_iff.mpr fun member listed => bne_iff_ne.mpr ?_
    rintro rfl
    exact fresh (List.mem_map_of_mem listed)
  rw [Gives, absent]

theorem gives_cons_iff_of_eq (same : entry.1 = name) :
    Gives read name missing (entry :: rest) result ↔ read entry.2 = .ok result := by
  subst same
  exact gives_iff_of_lookup List.lookup_cons_self

theorem gives_cons_iff_of_ne (other : entry.1 ≠ name) :
    Gives read name missing (entry :: rest) result ↔ Gives read name missing rest result := by
  obtain ⟨label, value⟩ := entry
  rw [Gives, List.lookup_cons, beq_false_of_ne (Ne.symm other)]
  rfl

end Gives

/-! ## Entries -/

variable {start final config : Config} {entries : Toml.Entries} {entry : String × Toml.Value}

/-- The release types that a document gives. -/
def GivesTypes (missing : List String) (entries : Toml.Entries) (types : List String) : Prop :=
  Gives (Toml.Value.each Toml.Value.string) "release_types" missing entries types

/-- The rules that a document gives. -/
def GivesRules (missing : List Rule) (entries : Toml.Entries) (rules : List Rule) : Prop :=
  Gives (Toml.Value.each Toml.Value.rule) "release_rules" missing entries rules

theorem readEntry_of_types (isTypes : entry.1 = "release_types") :
    readEntry start entry = .ok final ↔
      ∃ types, entry.2.each Toml.Value.string = .ok types ∧
        { start with releaseTypes := types } = final := by
  rw [readEntry, if_pos isTypes, map_eq_ok_iff]

theorem readEntry_of_rules (isRules : entry.1 = "release_rules") :
    readEntry start entry = .ok final ↔
      ∃ rules, entry.2.each Toml.Value.rule = .ok rules ∧
        { start with rules := rules } = final := by
  have other : ¬ entry.1 = "release_types" := by
    rw [isRules]
    decide
  rw [readEntry, if_neg other, if_pos isRules, map_eq_ok_iff]

/-- Entries of distinct names are read when the two that count are, each on its own. -/
theorem foldlM_readEntry_eq_ok_iff (distinct : entries.Distinct) :
    entries.foldlM readEntry start = .ok final ↔
      GivesTypes start.releaseTypes entries final.releaseTypes ∧
        GivesRules start.rules entries final.rules := by
  induction entries generalizing start with
  | nil =>
    cases start
    cases final
    simp [GivesTypes, GivesRules, Gives, pure, Except.pure, eq_comm]
  | cons entry rest ih =>
    obtain ⟨fresh, others⟩ := List.nodup_cons.mp distinct
    rw [List.foldlM_cons, bind_eq_ok_iff]
    simp only [ih others, GivesTypes, GivesRules]
    by_cases isTypes : entry.1 = "release_types"
    · have notRules : entry.1 ≠ "release_rules" := by
        rw [isTypes]
        decide
      rw [isTypes] at fresh
      rw [gives_cons_iff_of_eq isTypes, gives_cons_iff_of_ne notRules]
      simp only [readEntry_of_types isTypes, gives_iff_of_fresh fresh]
      constructor
      · rintro ⟨_, ⟨types, given, rfl⟩, same, rules⟩
        exact ⟨same ▸ given, rules⟩
      · rintro ⟨given, rules⟩
        exact ⟨_, ⟨_, given, rfl⟩, rfl, rules⟩
    · by_cases isRules : entry.1 = "release_rules"
      · rw [isRules] at fresh
        rw [gives_cons_iff_of_ne isTypes, gives_cons_iff_of_eq isRules]
        simp only [readEntry_of_rules isRules, gives_iff_of_fresh fresh]
        constructor
        · rintro ⟨_, ⟨rules, given, rfl⟩, types, same⟩
          exact ⟨types, same ▸ given⟩
        · rintro ⟨types, given⟩
          exact ⟨_, ⟨_, given, rfl⟩, types, rfl⟩
      · have ignored : readEntry start entry = .ok start := by
          rw [readEntry, if_neg isTypes, if_neg isRules]
        rw [gives_cons_iff_of_ne isTypes, gives_cons_iff_of_ne isRules, ignored]
        simp only [Except.ok.injEq, exists_eq_left']

/-! ## Documents -/

variable {document : String}

/-- **A document gives a configuration when it gives release types and rules.** -/
theorem ofText_eq_ok_iff (read : Toml.read? document = some entries) :
    ofText document = .ok config ↔
      GivesTypes Ranking.defaultIds entries config.releaseTypes ∧
        GivesRules [] entries config.rules := by
  rw [ofText, read]
  exact foldlM_readEntry_eq_ok_iff (Toml.distinct_of_read read)

/-- The rules of a document are an array of tables, which texts spell one by one. -/
def RulesSpelledBy (entries : Toml.Entries) (texts : List String) : Prop :=
  ∃ origin tables, entries.lookup "release_rules" = some (.array origin tables) ∧
    List.Forall₂ Toml.Value.SpelledBy tables texts

instance (entries : Toml.Entries) (texts : List String) :
    Decidable (RulesSpelledBy entries texts) :=
  match found : entries.lookup "release_rules" with
  | some (.array origin tables) =>
    decidable_of_iff (List.Forall₂ Toml.Value.SpelledBy tables texts) <| by
      constructor
      · intro spelled
        exact ⟨origin, tables, found, spelled⟩
      · rintro ⟨_, _, again, spelled⟩
        cases found.symm.trans again
        exact spelled
  | some (.text _) | some (.integer _) | some (.float _) | some .notFinite | some (.flag _)
  | some (.moment _) | some (.table _ _) | none =>
    isFalse <| by
      rintro ⟨_, _, again, _⟩
      rw [found] at again
      cases again

/-- Tables give the rules of texts that spell them, one by one. -/
theorem mapM_rule_eq_ok_iff {tables : List Toml.Value} {texts : List String} {rules : List Rule}
    (spelled : List.Forall₂ Toml.Value.SpelledBy tables texts) :
    tables.mapM Toml.Value.rule = .ok rules ↔ texts.mapM Rule.ofText = .ok rules := by
  induction spelled generalizing rules with
  | nil => exact Iff.rfl
  | cons same _ ih =>
    simp only [List.mapM_cons, bind_eq_ok_iff, same.rule_eq_ok_iff, ih]

/-- A document gives the rules of the texts that spell its tables. -/
theorem givesRules_iff_of_spelledBy {texts : List String} {missing rules : List Rule}
    (spelled : RulesSpelledBy entries texts) :
    GivesRules missing entries rules ↔ texts.mapM Rule.ofText = .ok rules := by
  obtain ⟨origin, tables, listed, spelled⟩ := spelled
  rw [GivesRules, gives_iff_of_lookup listed, ← mapM_rule_eq_ok_iff spelled]
  rfl

/-- **Both formats mean the same rules.** Let the rules of a document be an array of tables, and let
texts spell objects with the content of these tables, in their order. Then the document gives a
configuration exactly when it gives release types and every text gives a rule, and the rules of the
configuration are those of the texts, in the order of the document. -/
theorem ofText_rules {texts : List String} (read : Toml.read? document = some entries)
    (spelled : RulesSpelledBy entries texts) :
    (∀ config, ofText document = .ok config ↔
        GivesTypes Ranking.defaultIds entries config.releaseTypes ∧
          List.Forall₂ (fun text rule => Rule.ofText text = .ok rule) texts config.rules) ∧
      ((∃ config, ofText document = .ok config) ↔
        (∃ types, GivesTypes Ranking.defaultIds entries types) ∧
          ∀ text ∈ texts, ∃ rule, Rule.ofText text = .ok rule) := by
  have given : ∀ config, ofText document = .ok config ↔
      GivesTypes Ranking.defaultIds entries config.releaseTypes ∧
        texts.mapM Rule.ofText = .ok config.rules := by
    intro config
    rw [ofText_eq_ok_iff read, givesRules_iff_of_spelledBy spelled]
  refine ⟨?_, ?_⟩
  · intro config
    rw [given, mapM_eq_ok_iff]
  · rw [← exists_mapM_ok_iff]
    constructor
    · rintro ⟨config, done⟩
      obtain ⟨types, rules⟩ := (given config).mp done
      exact ⟨⟨_, types⟩, ⟨_, rules⟩⟩
    · rintro ⟨⟨types, givesTypes⟩, rules, givesRules⟩
      exact ⟨⟨types, rules⟩, (given _).mpr ⟨givesTypes, givesRules⟩⟩

/-- A document with two rules: one under a header with a table in an array, and a breaking one. -/
def scopedDocument : String :=
  "[[release_rules]]\nrelease = 'minor'\nnotes = [\x7b level = -3, title = 'x' \x7d]\n" ++
    "[[release_rules]]\nbreaking = true\nrelease = false\n"

/-- The texts of the rules, with their members in another order. -/
def scopedTexts : List String :=
  [ "\x7b\"notes\":[\x7b\"title\":\"x\",\"level\":-3\x7d],\"release\":\"minor\"\x7d",
    "\x7b\"release\":false,\"breaking\":true\x7d" ]

/-- The configuration has the two rules of the texts. -/
theorem ofText_rules_scopedDocument :
    ∃ entries config, Toml.read? scopedDocument = some entries ∧
      RulesSpelledBy entries scopedTexts ∧ ofText scopedDocument = .ok config ∧
      List.Forall₂ (fun text rule => Rule.ofText text = .ok rule) scopedTexts config.rules := by
  have known : (Toml.read? scopedDocument).any fun entries =>
      RulesSpelledBy entries scopedTexts ∧ (entries.lookup "release_types").isNone := by
    decide +kernel
  obtain ⟨entries, read⟩ : ∃ entries, Toml.read? scopedDocument = some entries := by
    cases read : Toml.read? scopedDocument with
    | some entries => exact ⟨entries, rfl⟩
    | none =>
      rw [read] at known
      cases known
  rw [read] at known
  obtain ⟨spelled, absent⟩ := of_decide_eq_true known
  have readable : ∀ text ∈ scopedTexts, ∃ rule, Rule.ofText text = .ok rule := by
    have succeeds : ∀ text ∈ scopedTexts, (Rule.ofText text).isOk := by decide +kernel
    intro text listed
    have isOk := succeeds text listed
    cases given : Rule.ofText text with
    | ok rule => exact ⟨rule, rfl⟩
    | error fault =>
      rw [given] at isOk
      cases isOk
  have types : GivesTypes Ranking.defaultIds entries Ranking.defaultIds := by
    rw [GivesTypes, Gives, Option.isNone_iff_eq_none.mp absent]
  obtain ⟨config, done⟩ := (ofText_rules read spelled).2.mpr ⟨⟨_, types⟩, readable⟩
  have rules := (((ofText_rules read spelled).1 config).mp done).2
  exact ⟨entries, config, read, spelled, done, rules⟩

end Config
end ReleaseAnalysis
