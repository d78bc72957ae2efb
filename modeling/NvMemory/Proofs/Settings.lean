import NvMemory.Proofs.JsonObject
import NvMemory.Scheduler.Settings

/-!
Documents of settings.

An object may give any of the settings in any order. What it gives is taken over, what it does not give
keeps its standard value, and only then are the settings checked. All settings together are written as
such an object, so that they are read back as they were.
-/

namespace NvMemory

namespace Setting

theorem ofKey?_key (setting : Setting) : ofKey? setting.key = some setting := by
  cases setting <;> decide

theorem plain_key (setting : Setting) : Json.PlainText setting.key := by
  cases setting <;> decide +kernel

theorem mem_all (setting : Setting) : setting ∈ all := by
  cases setting <;> decide

theorem nodup_all : all.Nodup := by
  decide

end Setting

namespace Settings

variable {settings base : Settings} {given taken : List Setting} {text : String}

def members (settings : Settings) (given : List Setting) : List (String × Nat) :=
  given.map fun setting => (setting.key, settings.get setting)

/-- `base` with the values that are given in `settings`. -/
def overridden (base settings : Settings) (given : List Setting) : Settings :=
  given.foldl (fun merged setting => merged.set setting (settings.get setting)) base

theorem get_overridden (base settings : Settings) (given : List Setting) (setting : Setting) :
    (base.overridden settings given).get setting =
      if setting ∈ given then settings.get setting else base.get setting := by
  induction given generalizing base with
  | nil => rfl
  | cons first rest ih =>
      change ((base.set first (settings.get first)).overridden settings rest).get setting = _
      rw [ih]
      by_cases same : first = setting
      case pos => simp [same, get_set_same _ _ (settings.get_le_limit setting)]
      case neg => simp [Ne.symm same, get_set_other _ same]

theorem ofMembers?_members (base settings : Settings) (distinct : given.Nodup)
    (fresh : ∀ setting ∈ given, setting ∉ taken) :
    base.ofMembers? taken (Json.memberDocuments (settings.members given)) =
      some (base.overridden settings given) := by
  induction given generalizing base taken with
  | nil => rfl
  | cons first rest ih =>
      rw [List.nodup_cons] at distinct
      rw [List.forall_mem_cons] at fresh
      have later : ∀ setting ∈ rest, setting ∉ first :: taken := by
        intro setting member seen
        rcases List.mem_cons.mp seen with rfl | early
        · exact distinct.1 member
        · exact fresh.2 setting member early
      have took : base.take? first (.natural (settings.get first)) =
          some (base.set first (settings.get first)) := by
        simp [take?, Json.Document.upTo?, settings.get_le_limit first]
      change ofMembers? base taken ((some first.key, .natural (settings.get first)) ::
        Json.memberDocuments (settings.members rest)) = _
      simp only [ofMembers?, Setting.ofKey?_key, if_neg fresh.1, took, Option.bind_some]
      exact ih (base.set first (settings.get first)) distinct.2 later

theorem parse_of_layout (distinct : given.Nodup)
    (layout : Json.Layout (Json.objectTokens (settings.members given)) text) :
    parse (Json.bytesOf text) = (standard.overridden settings given).check := by
  have read : (Json.Document.parse? (Json.bytesOf text)).bind ofDocument? =
      some (standard.overridden settings given) := by
    rw [Json.parse?_of_layout layout]
    exact ofMembers?_members standard settings distinct fun _ _ => List.not_mem_nil
  rw [parse, read]

theorem firstZero?_eq_none_iff :
    settings.firstZero? = none ↔
      settings.retryModulus ≠ 0 ∧ settings.queueCapacity ≠ 0 ∧ settings.historyDepth ≠ 0 := by
  simp [firstZero?, Setting.positive, get, ← UInt64.toNat_inj]

theorem firstZero?_eq_some {setting : Setting} (found : settings.firstZero? = some setting) :
    setting ∈ Setting.positive ∧ settings.get setting = 0 := by
  have zero := List.find?_some found
  exact ⟨List.mem_of_find?_eq_some found, beq_iff_eq.mp zero⟩

theorem eq_of_check {accepted : Settings} (passes : settings.check = .ok accepted) :
    accepted = settings := by
  unfold check at passes
  split at passes
  · contradiction
  · exact (Except.ok.inj passes).symm

theorem layout_render (settings : Settings) :
    Json.Layout (Json.objectTokens (settings.members Setting.all)) settings.render := by
  have plain : ∀ member ∈ settings.members Setting.all, Json.PlainText member.1 := by
    intro member listed
    obtain ⟨setting, _, rfl⟩ := List.mem_map.mp listed
    exact setting.plain_key
  exact Json.Layout.pretty plain

theorem overridden_all (base settings : Settings) :
    base.overridden settings Setting.all = settings := by
  apply ext_get
  intro setting
  rw [get_overridden, if_pos setting.mem_all]

theorem parse_render (settings : Settings) : parse (Json.bytesOf settings.render) = settings.check := by
  rw [parse_of_layout Setting.nodup_all settings.layout_render, overridden_all]

/-- However an object that gives some of the settings is ordered and laid out, it is read as the settings
with these values and with standard values for the others, unless one that must not be zero is. In
particular, what was written is read back, if it passes the check. -/
theorem documents_give_settings (settings : Settings) :
    (∀ (given : List Setting) (text : String), given.Nodup →
      Json.Layout (Json.objectTokens (settings.members given)) text →
        ∃ merged : Settings,
          (∀ setting, merged.get setting =
            if setting ∈ given then settings.get setting else standard.get setting) ∧
          (merged.retryModulus ≠ 0 ∧ merged.queueCapacity ≠ 0 ∧ merged.historyDepth ≠ 0 →
            parse (Json.bytesOf text) = .ok merged) ∧
          (merged.retryModulus = 0 ∨ merged.queueCapacity = 0 ∨ merged.historyDepth = 0 →
            ∃ zero ∈ Setting.positive, merged.get zero = 0 ∧
              parse (Json.bytesOf text) = .error (.mustBeNonZero zero))) ∧
    (∀ accepted, settings.check = .ok accepted →
      parse (Json.bytesOf settings.render) = .ok settings) ∧
    ∀ error, settings.check = .error error →
      parse (Json.bytesOf settings.render) = .error error := by
  refine ⟨fun given text distinct layout => ?_, fun accepted passes => ?_, fun error fails => ?_⟩
  · have read := parse_of_layout distinct layout
    refine ⟨standard.overridden settings given, get_overridden _ _ _, fun nonzero => ?_, fun zero => ?_⟩
    · rw [read, check, firstZero?_eq_none_iff.mpr nonzero]
    · cases found : (standard.overridden settings given).firstZero? with
      | none =>
          obtain ⟨retry, queue, history⟩ := firstZero?_eq_none_iff.mp found
          rcases zero with modulus | capacity | depth <;> contradiction
      | some setting =>
          obtain ⟨checked, isZero⟩ := firstZero?_eq_some found
          refine ⟨setting, checked, isZero, ?_⟩
          rw [read, check, found]
  · rw [parse_render, passes, eq_of_check passes]
  · rw [parse_render, fails]

/-- A text that gives two settings, with blanks in odd places, and two texts of all settings. -/
theorem document_of_two_settings :
    let settings : Settings := { queueCapacity := 8, writeLatency := 20, historyDepth := 0 }
    let given : List Setting := [.queueCapacity, .writeLatency]
    let text := "\n\x7b\"queue_capacity\" : 8\t,\"write_latency_ms\":20 \x7d "
    given.Nodup ∧ Json.Layout (Json.objectTokens (settings.members given)) text ∧
      parse (Json.bytesOf text) = .ok { queueCapacity := 8, writeLatency := 20 } ∧
      settings.check = .error (.mustBeNonZero .historyDepth) ∧
      parse (Json.bytesOf settings.render) = .error (.mustBeNonZero .historyDepth) ∧
      standard.check = .ok standard ∧ parse (Json.bytesOf standard.render) = .ok standard := by
  intro settings given text
  have distinct : given.Nodup := by decide
  have words : text = String.singleton '\n' ++ ("\x7b" ++ (Json.Value.quote "queue_capacity" ++
      (String.singleton ' ' ++ (":" ++ (String.singleton ' ' ++ (toString 8 ++ (String.singleton '\t' ++
      ("," ++ (Json.Value.quote "write_latency_ms" ++ (":" ++ (toString 20 ++ (String.singleton ' ' ++
      ("\x7d" ++ (String.singleton ' ' ++ "")))))))))))))) := by
    decide +kernel
  have layout : Json.Layout (Json.objectTokens (settings.members given)) text := by
    rw [words]
    refine .blank (by decide) (.word .openBrace (.word (.text (Setting.plain_key .queueCapacity)) ?_))
    refine .blank (by decide) (.word .colon (.blank (by decide) (.word (.natural 8) ?_)))
    refine .blank (by decide) (.word .comma (.word (.text (Setting.plain_key .writeLatency)) ?_))
    refine .word .colon (.word (.natural 20) (.blank (by decide) ?_))
    exact .word .closeBrace (.blank (by decide) .done)
  have fails : settings.check = .error (.mustBeNonZero .historyDepth) := rfl
  have passes : standard.check = .ok standard := rfl
  obtain ⟨partly, _, wholly⟩ := documents_give_settings settings
  obtain ⟨merged, values, accepted, _⟩ := partly given text distinct layout
  have same : merged = { queueCapacity := 8, writeLatency := 20 } := by
    apply ext_get
    intro setting
    rw [values]
    cases setting <;> decide
  subst same
  exact ⟨distinct, layout, accepted (by decide), fails, wholly _ fails, passes,
    (documents_give_settings standard).2.1 _ passes⟩

end Settings

end NvMemory
