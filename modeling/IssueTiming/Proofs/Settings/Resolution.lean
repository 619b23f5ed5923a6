import IssueTiming.Proofs.Core.Coverage
import IssueTiming.Settings.Selection

/-!
# Selections against the catalogues

Settings are resolved by two look-ups, one for the dialect and one for the core, and a
comparison. The catalogues give every name once, and every core prices a dialect of the
catalogue, so the settings select what a search among the cores of the dialect finds.
-/

namespace IssueTiming

/-! ## Looking up a name -/

section

variable {Entry : Type} (nameOf : Entry → String) {entries : List Entry}

/-- Among entries with different names a search finds the one with the name. -/
theorem find?_name_eq_some_iff (distinct : (entries.map nameOf).Nodup) (name : String)
    (entry : Entry) :
    (entries.find? fun found => nameOf found == name) = some entry ↔
      entry ∈ entries ∧ nameOf entry = name := by
  cases first : entries.find? fun found => nameOf found == name with
  | none =>
      have absent := List.find?_eq_none.mp first entry
      simp only [beq_iff_eq] at absent
      simpa using absent
  | some found =>
      have member := List.mem_of_find?_eq_some first
      have named : nameOf found = name := by simpa using List.find?_some first
      rw [Option.some.injEq]
      constructor
      · rintro rfl
        exact ⟨member, named⟩
      · rintro ⟨isEntry, rfl⟩
        exact List.inj_on_of_nodup_map distinct member isEntry named

theorem find?_name_eq_none_iff (name : String) :
    (entries.find? fun found => nameOf found == name) = none ↔ name ∉ entries.map nameOf := by
  simp

end

namespace Dialect

theorem nodup_builtinNames : builtinNames.Nodup := by
  decide

theorem find_eq_ok_iff (name : String) (dialect : Dialect) :
    find name = .ok dialect ↔ dialect ∈ builtin ∧ dialect.name = name := by
  rw [← find?_name_eq_some_iff Dialect.name nodup_builtinNames, find]
  cases builtin.find? fun dialect => dialect.name == name with
  | none => simp
  | some found => simp

theorem find_eq_error_iff (name : String) (error : UnknownDialect) :
    find name = .error error ↔ error = ⟨name⟩ ∧ name ∉ builtinNames := by
  rw [builtinNames, ← find?_name_eq_none_iff, find]
  cases builtin.find? fun dialect => dialect.name == name with
  | none => simp [eq_comm]
  | some found => simp

end Dialect

namespace Core

theorem nodup_builtinNames : builtinNames.Nodup := by
  decide

theorem find_eq_ok_iff (name : String) (core : Core) :
    find name = .ok core ↔ core ∈ builtin ∧ core.name = name := by
  rw [← find?_name_eq_some_iff Core.name nodup_builtinNames, find]
  cases builtin.find? fun core => core.name == name with
  | none => simp
  | some found => simp

theorem find_eq_error_iff (name : String) (error : UnknownCore) :
    find name = .error error ↔ error = ⟨name⟩ ∧ name ∉ builtinNames := by
  rw [builtinNames, ← find?_name_eq_none_iff, find]
  cases builtin.find? fun core => core.name == name with
  | none => simp [eq_comm]
  | some found => simp

theorem eq_of_name_eq {left right : Core} (isLeft : left ∈ builtin) (isRight : right ∈ builtin)
    (same : left.name = right.name) : left = right :=
  List.inj_on_of_nodup_map nodup_builtinNames isLeft isRight same

theorem mem_ofDialect_iff (dialect : String) (core : Core) :
    core ∈ ofDialect dialect ↔ core ∈ builtin ∧ core.dialect.name = dialect := by
  rw [ofDialect, List.mem_filter, beq_iff_eq]

theorem dialect_mem_builtin {core : Core} (listed : core ∈ builtin) :
    core.dialect ∈ Dialect.builtin := by
  rcases (mem_builtin_iff core).mp listed with rfl | rfl | rfl | rfl | rfl | rfl | rfl
  all_goals simp [Dialect.builtin, cortexM55, cortexM85, cortexA55, cortexA72, neoverseN1,
    firestorm, icestorm]

end Core

/-! ## Resolving settings -/

namespace Settings

/-- Every way in which settings are resolved: a dialect that is not known is refused first, then
a core that is not known, then a core of another dialect. -/
inductive Resolves (settings : Settings) : Except SelectionFault Selection → Prop
  | unknownDialect : settings.dialect ∉ Dialect.builtinNames →
      Resolves settings (.error (.unknownDialect ⟨settings.dialect⟩))
  | unknownCore : settings.dialect ∈ Dialect.builtinNames →
      settings.core ∉ Core.builtinNames →
      Resolves settings (.error (.unknownCore ⟨settings.core⟩))
  | mismatch (core : Core) : settings.dialect ∈ Dialect.builtinNames → core ∈ Core.builtin →
      core.name = settings.core → core.dialect.name ≠ settings.dialect →
      Resolves settings
        (.error (.dialectMismatch settings.core core.dialect.name settings.dialect))
  | selected (core : Core) : core ∈ Core.ofDialect settings.dialect →
      core.name = settings.core →
      Resolves settings (.ok ⟨core.dialect, core, settings.mode, settings.loopLabel⟩)

variable {settings : Settings}

theorem Resolves.resolve_eq {result : Except SelectionFault Selection}
    (resolves : settings.Resolves result) : settings.resolve = result := by
  unfold resolve
  cases resolves with
  | unknownDialect unknown =>
      rw [(Dialect.find_eq_error_iff _ _).mpr ⟨rfl, unknown⟩]
  | unknownCore known unknown =>
      rcases List.mem_map.mp known with ⟨dialect, isDialect, dialectNamed⟩
      rw [(Dialect.find_eq_ok_iff _ _).mpr ⟨isDialect, dialectNamed⟩,
        (Core.find_eq_error_iff _ _).mpr ⟨rfl, unknown⟩]
  | mismatch core known isCore named other =>
      rcases List.mem_map.mp known with ⟨dialect, isDialect, dialectNamed⟩
      rw [(Dialect.find_eq_ok_iff _ _).mpr ⟨isDialect, dialectNamed⟩,
        (Core.find_eq_ok_iff _ _).mpr ⟨isCore, named⟩]
      exact if_neg fun same => other (same.trans dialectNamed)
  | selected core listed named =>
      rcases (Core.mem_ofDialect_iff _ _).mp listed with ⟨isCore, dialectNamed⟩
      rw [(Dialect.find_eq_ok_iff _ _).mpr ⟨Core.dialect_mem_builtin isCore, dialectNamed⟩,
        (Core.find_eq_ok_iff _ _).mpr ⟨isCore, named⟩]
      exact if_pos rfl

theorem exists_resolves (settings : Settings) : ∃ result, settings.Resolves result := by
  by_cases dialectKnown : settings.dialect ∈ Dialect.builtinNames
  · by_cases coreKnown : settings.core ∈ Core.builtinNames
    · rcases List.mem_map.mp coreKnown with ⟨core, isCore, named⟩
      by_cases same : core.dialect.name = settings.dialect
      · exact ⟨_, .selected core ((Core.mem_ofDialect_iff _ _).mpr ⟨isCore, same⟩) named⟩
      · exact ⟨_, .mismatch core dialectKnown isCore named same⟩
    · exact ⟨_, .unknownCore dialectKnown coreKnown⟩
  · exact ⟨_, .unknownDialect dialectKnown⟩

theorem resolve_eq_iff (result : Except SelectionFault Selection) :
    settings.resolve = result ↔ settings.Resolves result := by
  constructor
  · rintro rfl
    rcases settings.exists_resolves with ⟨result, resolves⟩
    rwa [resolves.resolve_eq]
  · exact Resolves.resolve_eq

/-- What a selection for the settings holds. -/
structure Selects (settings : Settings) (selection : Selection) : Prop where
  dialect : Dialect.find settings.dialect = .ok selection.dialect
  core : Core.find settings.core = .ok selection.core
  listed : selection.core ∈ Core.ofDialect settings.dialect
  only : ∀ core ∈ Core.ofDialect settings.dialect, core.name = settings.core →
    core = selection.core
  own : selection.core.dialect = selection.dialect
  mode : selection.mode = settings.mode
  loopLabel : selection.loopLabel = settings.loopLabel

theorem selects_of_resolve {selection : Selection} (resolved : settings.resolve = .ok selection) :
    settings.Selects selection := by
  cases (resolve_eq_iff _).mp resolved with
  | selected core listed named =>
      rcases (Core.mem_ofDialect_iff _ _).mp listed with ⟨isCore, dialectNamed⟩
      refine ⟨(Dialect.find_eq_ok_iff _ _).mpr ⟨Core.dialect_mem_builtin isCore, dialectNamed⟩,
        (Core.find_eq_ok_iff _ _).mpr ⟨isCore, named⟩, listed, ?_, rfl, rfl, rfl⟩
      intro other isOther otherNamed
      exact Core.eq_of_name_eq ((Core.mem_ofDialect_iff _ _).mp isOther).1 isCore
        (otherNamed.trans named.symm)

theorem exists_resolve_eq_ok_iff :
    (∃ selection, settings.resolve = .ok selection) ↔
      ∃ core ∈ Core.ofDialect settings.dialect, core.name = settings.core := by
  constructor
  · rintro ⟨selection, resolved⟩
    cases (resolve_eq_iff _).mp resolved with
    | selected core listed named => exact ⟨core, listed, named⟩
  · rintro ⟨core, listed, named⟩
    exact ⟨_, (resolve_eq_iff _).mpr (.selected core listed named)⟩

theorem resolve_eq_unknownDialect_iff :
    settings.resolve = .error (.unknownDialect ⟨settings.dialect⟩) ↔
      settings.dialect ∉ Dialect.builtinNames := by
  rw [resolve_eq_iff]
  constructor
  · intro resolves
    cases resolves with
    | unknownDialect unknown => exact unknown
  · exact .unknownDialect

theorem resolve_eq_unknownCore_iff :
    settings.resolve = .error (.unknownCore ⟨settings.core⟩) ↔
      settings.dialect ∈ Dialect.builtinNames ∧ settings.core ∉ Core.builtinNames := by
  rw [resolve_eq_iff]
  constructor
  · intro resolves
    cases resolves with
    | unknownCore known unknown => exact ⟨known, unknown⟩
  · rintro ⟨known, unknown⟩
    exact .unknownCore known unknown

/-- A mismatch names the dialect that the core prices, and with that dialect the settings
resolve. -/
theorem exists_resolve_eq_mismatch (dialectKnown : settings.dialect ∈ Dialect.builtinNames)
    (coreKnown : settings.core ∈ Core.builtinNames)
    (unlisted : ¬ ∃ core ∈ Core.ofDialect settings.dialect, core.name = settings.core) :
    ∃ expected,
      settings.resolve = .error (.dialectMismatch settings.core expected settings.dialect) ∧
        ∃ selection, { settings with dialect := expected }.resolve = .ok selection := by
  rcases List.mem_map.mp coreKnown with ⟨core, isCore, named⟩
  have other : core.dialect.name ≠ settings.dialect := fun same =>
    unlisted ⟨core, (Core.mem_ofDialect_iff _ _).mpr ⟨isCore, same⟩, named⟩
  refine ⟨core.dialect.name, ?_, ?_⟩
  · exact (resolve_eq_iff _).mpr (.mismatch core dialectKnown isCore named other)
  · exact exists_resolve_eq_ok_iff.mpr
      ⟨core, (Core.mem_ofDialect_iff _ _).mpr ⟨isCore, rfl⟩, named⟩

/-- Settings resolve exactly if a core of their dialect has the name they give, and then to that
core and its dialect. Otherwise a dialect that is not known is reported first, then a core that
is not known, and then the dialect that would have been right for the core. -/
theorem resolve_agrees_with_catalogues (settings : Settings) :
    ((∃ selection, settings.resolve = .ok selection) ↔
      ∃ core ∈ Core.ofDialect settings.dialect, core.name = settings.core) ∧
    (∀ selection, settings.resolve = .ok selection → settings.Selects selection) ∧
    (settings.resolve = .error (.unknownDialect ⟨settings.dialect⟩) ↔
      settings.dialect ∉ Dialect.builtinNames) ∧
    (settings.resolve = .error (.unknownCore ⟨settings.core⟩) ↔
      settings.dialect ∈ Dialect.builtinNames ∧ settings.core ∉ Core.builtinNames) ∧
    (settings.dialect ∈ Dialect.builtinNames → settings.core ∈ Core.builtinNames →
      (¬ ∃ core ∈ Core.ofDialect settings.dialect, core.name = settings.core) →
      ∃ expected,
        settings.resolve = .error (.dialectMismatch settings.core expected settings.dialect) ∧
          ∃ selection, { settings with dialect := expected }.resolve = .ok selection) :=
  ⟨exists_resolve_eq_ok_iff, fun _ => selects_of_resolve, resolve_eq_unknownDialect_iff,
    resolve_eq_unknownCore_iff, exists_resolve_eq_mismatch⟩

/-- One core of its own dialect, and one of another. -/
theorem resolve_agrees_with_catalogues_pair :
    let settled : Settings := ⟨"Arm_v81M", "Arm_Cortex_M55", .functionalOnly, some "start"⟩
    let crossed : Settings := ⟨"Arm_v81M", "Arm_Cortex_A55", .performance, none⟩
    (∃ selection, settled.resolve = .ok selection ∧ settled.Selects selection) ∧
      crossed.dialect ∈ Dialect.builtinNames ∧ crossed.core ∈ Core.builtinNames ∧
      (¬ ∃ core ∈ Core.ofDialect crossed.dialect, core.name = crossed.core) ∧
      ∃ expected,
        crossed.resolve = .error (.dialectMismatch "Arm_Cortex_A55" expected "Arm_v81M") ∧
          ∃ selection, { crossed with dialect := expected }.resolve = .ok selection := by
  intro settled crossed
  rcases resolve_agrees_with_catalogues settled with ⟨resolves, selects, -, -, -⟩
  rcases resolve_agrees_with_catalogues crossed with ⟨-, -, -, -, mismatch⟩
  have dialectKnown : crossed.dialect ∈ Dialect.builtinNames := by decide
  have coreKnown : crossed.core ∈ Core.builtinNames := by decide
  have unlisted : ¬ ∃ core ∈ Core.ofDialect crossed.dialect, core.name = crossed.core := by
    decide
  have listed : cortexM55 ∈ Core.ofDialect settled.dialect := List.mem_cons_self
  rcases resolves.mpr ⟨cortexM55, listed, rfl⟩ with ⟨selection, resolved⟩
  exact ⟨⟨selection, resolved, selects selection resolved⟩, dialectKnown, coreKnown, unlisted,
    mismatch dialectKnown coreKnown unlisted⟩

end Settings

end IssueTiming
