import Mathlib.Data.List.Induction
import Mathlib.Data.List.Nodup
import PocketCalc.Console.Options

/-!
# The command line is a set of options

The arguments that start a session are the spellings of settings, each option set at most once, with
the mark `--` allowed behind them (`Options.ofArguments_eq_ok_iff`). The options are then a matter of
which settings there are. Neither their order nor the spelling of each has a say.

The proof goes along the two steps of the program. Obeying directives is to collect settings, and the
draft is a view of those that were collected so far, in which every switch is found at most once
(`Draft.obeyAll_eq_ok_iff`). Reading arguments is where the spellings are: a directive stands for a
setting or for none (`Directive.setting?`), and if all of them stand for one, the arguments are
spellings (`AreSpelled.of_directives`).

The two do not separate completely. A cluster of letters such as `-qq` is read as two settings, each
of which could be obeyed, and it is not a spelling. What speaks against it is that they are the same,
so that no switch is repeated is assumed for reading already.
-/

namespace PocketCalc

/-! ## Settings and their spellings -/

/-- An option that is set. -/
inductive Setting where
  | noColor
  | quiet
  | prompt (text : Text)
  deriving Repr, DecidableEq

/-- The option that a setting is one of. -/
def Setting.switch : Setting → Switch
  | noColor => .noColor
  | quiet => .quiet
  | prompt _ => .prompt

/-- The arguments that spell a setting. A value in an argument of its own must not look like an
option. -/
inductive Setting.IsSpelled : Setting → List Text → Prop
  | noColor : IsSpelled .noColor ["--no-color".toList]
  | quietLetter : IsSpelled .quiet ["-q".toList]
  | quietName : IsSpelled .quiet ["--quiet".toList]
  | promptJoined (text : Text) : IsSpelled (.prompt text) ["--prompt=".toList ++ text]
  | promptApart {text : Text} (h : text = ['-'] ∨ text.head? ≠ some '-') :
      IsSpelled (.prompt text) ["--prompt".toList, text]

/-- The arguments that spell settings in their order. The mark that ends the options may follow. -/
inductive AreSpelled : List Setting → List Text → Prop
  | nil : AreSpelled [] []
  | mark : AreSpelled [] ["--".toList]
  | cons {setting : Setting} {settings : List Setting} {arguments rest : List Text}
      (h : setting.IsSpelled arguments) (hRest : AreSpelled settings rest) :
      AreSpelled (setting :: settings) (arguments ++ rest)

/-- No option is set for the second time. -/
def SetOnce (settings : List Setting) : Prop := (settings.map Setting.switch).Nodup

instance (settings : List Setting) : Decidable (SetOnce settings) :=
  inferInstanceAs (Decidable (settings.map Setting.switch).Nodup)

theorem setOnce_nil : SetOnce [] := List.nodup_nil

/-- What options say about the settings that they come from. -/
structure Options.Reflects (options : Options) (settings : List Setting) : Prop where
  noColor : options.noColor = true ↔ .noColor ∈ settings
  quiet : options.quiet = true ↔ .quiet ∈ settings
  prompt : .prompt options.prompt ∈ settings ∨
    options.prompt = "> ".toList ∧ ∀ text, .prompt text ∉ settings

/-! ## Reading one argument -/

namespace Switch

theorem ofName?_eq_some_iff {name : Text} {switch : Switch} :
    ofName? name = some switch ↔ name = switch.name.toList := by
  constructor
  · intro h
    have hFound := List.find?_some h
    exact (beq_iff_eq.mp hFound).symm
  · rintro rfl
    exact ofName?_name switch

end Switch

namespace Argument

/-- Apart from the lone hyphen an operand does not begin with one. -/
theorem ofText_eq_operand_iff {text value : Text} :
    ofText text = .operand value ↔ text = value ∧ (text = ['-'] ∨ text.head? ≠ some '-') := by
  constructor
  · intro h
    have hText := toText_ofText text
    rw [h] at hText
    refine ⟨hText.symm, ?_⟩
    by_contra hHyphen
    obtain ⟨hLone, hHead⟩ := not_or.mp hHyphen
    obtain ⟨rest, rfl⟩ : ∃ rest, text = '-' :: rest := List.head?_eq_some_iff.mp (not_not.mp hHead)
    obtain ⟨letter, others, rfl⟩ : ∃ letter others, rest = letter :: others :=
      List.exists_cons_of_ne_nil fun hNil => hLone (congrArg _ hNil)
    unfold ofText at h
    split at h <;> simp_all
  · rintro ⟨rfl, rfl | hHead⟩
    · rfl
    · unfold ofText
      split <;> simp_all

/-- The name in an argument ends before the first equals sign. -/
theorem ofText_joined {name : Text} (hName : '=' ∉ name) (value : Text) (hNonempty : name ≠ []) :
    ofText ('-' :: '-' :: (name ++ '=' :: value)) = .named name (some value) := by
  have hKeep : ∀ c ∈ name, (c != '=') = true := by
    intro c hc
    exact bne_iff_ne.mpr fun hSame => hName (hSame ▸ hc)
  obtain ⟨first, rest, rfl⟩ := List.exists_cons_of_ne_nil hNonempty
  have hTake : ((first :: rest) ++ '=' :: value).takeWhile (· != '=') = first :: rest := by
    rw [List.takeWhile_append_of_pos hKeep]
    simp
  have hDrop : ((first :: rest) ++ '=' :: value).dropWhile (· != '=') = '=' :: value := by
    rw [List.dropWhile_append_of_pos hKeep]
    simp
  show Argument.named (((first :: rest) ++ '=' :: value).takeWhile (· != '='))
    (valueOf (((first :: rest) ++ '=' :: value).dropWhile (· != '='))) = _
  rw [hTake, hDrop]
  rfl

theorem eq_toText {text : Text} {argument : Argument} (h : ofText text = argument) :
    text = argument.toText := by
  rw [← h, toText_ofText]

end Argument

/-! ## Reading arguments -/

namespace Directive

/-- The setting that a directive asks for. A prompt that lacks its value asks for none, and neither
does a directive that starts no session. -/
def setting? : Directive → Option Setting
  | noColor => some .noColor
  | quiet => some .quiet
  | prompt text => some (.prompt text)
  | promptApart text => text.map .prompt
  | halt _ => none

/-- A letter that sets something is the one for quiet. -/
theorem setting?_ofLetter {letter : Char} {setting : Setting}
    (h : (ofLetter letter).setting? = some setting) : letter = 'q' ∧ setting = .quiet := by
  rw [ofLetter] at h
  cases hSwitch : Switch.ofLetter? letter with
  | none =>
    rw [hSwitch] at h
    cases h
  | some switch =>
    have hLetter := Switch.ofLetter?_eq_some_iff.mp hSwitch
    rw [hSwitch] at h
    cases switch <;> cases h <;> cases hLetter
    exact ⟨rfl, rfl⟩

/-- A name that sets something by itself is that of a flag. -/
theorem setting?_ofName {name : Text} {setting : Setting}
    (h : (ofName name).setting? = some setting) :
    name = "no-color".toList ∧ setting = .noColor ∨ name = "quiet".toList ∧ setting = .quiet := by
  rw [ofName] at h
  cases hSwitch : Switch.ofName? name with
  | none =>
    rw [hSwitch] at h
    cases h
  | some switch =>
    have hName := Switch.ofName?_eq_some_iff.mp hSwitch
    rw [hSwitch] at h
    cases switch <;> cases h
    · exact .inl ⟨hName, rfl⟩
    · exact .inr ⟨hName, rfl⟩

/-- A name that sets something to a value is that of the prompt. -/
theorem setting?_ofNameAndValue {name value : Text} {setting : Setting}
    (h : (ofNameAndValue name value).setting? = some setting) :
    name = "prompt".toList ∧ setting = .prompt value := by
  rw [ofNameAndValue] at h
  cases hSwitch : Switch.ofName? name with
  | none =>
    rw [hSwitch] at h
    cases h
  | some switch =>
    have hName := Switch.ofName?_eq_some_iff.mp hSwitch
    rw [hSwitch] at h
    cases switch <;> cases h
    exact ⟨hName, rfl⟩

/-- If all directives ask for settings, the first one asks for the first of them. -/
theorem exists_setting_of_cons {directive : Directive} {rest : List Directive}
    {settings : List Setting} (h : (directive :: rest).map setting? = settings.map some) :
    ∃ setting others, settings = setting :: others ∧ directive.setting? = some setting ∧
      rest.map setting? = others.map some := by
  rw [List.map_cons] at h
  obtain ⟨setting, others, hSettings, hFirst, hRest⟩ := List.map_eq_cons_iff.mp h.symm
  exact ⟨setting, others, hSettings, hFirst.symm, hRest.symm⟩

end Directive

/-- A name on its own that is a flag leaves the next argument alone. -/
theorem Directive.ofArguments_flag {argument name : Text} (rest : List Text)
    (h : Argument.ofText argument = .named name none)
    (hFlag : Switch.ofName? name ≠ some .prompt) :
    ofArguments (argument :: rest) = ofName name :: ofArguments rest := by
  rw [ofArguments, h]
  cases rest with
  | nil => rfl
  | cons next later =>
    simp only
    split
    · rename_i hPrompt _
      exact absurd hPrompt hFlag
    · rfl

/-- The spelling of a setting is read as that setting, whatever follows it. -/
theorem Setting.IsSpelled.map_directives {setting : Setting} {arguments : List Text}
    (h : setting.IsSpelled arguments) (rest : List Text) :
    (Directive.ofArguments (arguments ++ rest)).map Directive.setting? =
      some setting :: (Directive.ofArguments rest).map Directive.setting? := by
  cases h with
  | noColor =>
    have hName : Argument.ofText "--no-color".toList = .named "no-color".toList none := by decide
    rw [List.singleton_append, Directive.ofArguments_flag rest hName (by decide), List.map_cons]
    rfl
  | quietLetter => rfl
  | quietName =>
    have hName : Argument.ofText "--quiet".toList = .named "quiet".toList none := by decide
    rw [List.singleton_append, Directive.ofArguments_flag rest hName (by decide), List.map_cons]
    rfl
  | promptJoined text =>
    have hName : Argument.ofText ("--prompt=".toList ++ text) =
        .named "prompt".toList (some text) := by
      have hEquals : '=' ∉ "prompt".toList := by decide
      exact Argument.ofText_joined hEquals text (by decide)
    rw [List.singleton_append, Directive.ofArguments, hName]
    rfl
  | promptApart hValue =>
    rename_i text
    have hName : Argument.ofText "--prompt".toList = .named "prompt".toList none := by decide
    have hOperand : Argument.ofText text = .operand text :=
      Argument.ofText_eq_operand_iff.mpr ⟨rfl, hValue⟩
    have hSwitch : Switch.ofName? "prompt".toList = some .prompt := by decide
    simp only [List.cons_append, List.nil_append, Directive.ofArguments, hName, hOperand, hSwitch,
      List.map_cons]
    rfl

namespace AreSpelled

theorem map_directives {arguments : List Text} {settings : List Setting}
    (h : AreSpelled settings arguments) :
    (Directive.ofArguments arguments).map Directive.setting? = settings.map some := by
  induction h with
  | nil => rfl
  | mark => rfl
  | cons hSetting _ ih => rw [hSetting.map_directives, ih, List.map_cons]

/-- A name on its own that sets something is a spelling. -/
theorem of_flag {name : Text} {setting : Setting} {rest : List Text} {settings : List Setting}
    (h : (Directive.ofName name).setting? = some setting) (hRest : AreSpelled settings rest) :
    AreSpelled (setting :: settings) ((Argument.named name none).toText :: rest) := by
  obtain ⟨rfl, rfl⟩ | ⟨rfl, rfl⟩ := Directive.setting?_ofName h
  · exact .cons .noColor hRest
  · exact .cons .quietName hRest

/-- Arguments that are read as settings without repetition are spellings of them. -/
theorem of_directives {arguments : List Text} {settings : List Setting} (hOnce : SetOnce settings)
    (h : (Directive.ofArguments arguments).map Directive.setting? = settings.map some) :
    AreSpelled settings arguments := by
  fun_induction Directive.ofArguments arguments generalizing settings with
  | case1 =>
    cases settings with
    | nil => exact .nil
    | cons => cases h
  | case2 argument rest hMark =>
    -- What follows the mark asks for no setting, so nothing does.
    cases settings with
    | cons => cases rest <;> cases h
    | nil =>
      cases rest with
      | cons => cases h
      | nil =>
        rw [Argument.eq_toText hMark]
        exact .mark
  | case3 argument rest value hOperand ih =>
    obtain ⟨setting, _, _, hFirst, _⟩ := Directive.exists_setting_of_cons h
    cases hFirst
  | case4 argument rest first others hLetters ih =>
    obtain ⟨setting, settings, rfl, hFirst, hRest⟩ := Directive.exists_setting_of_cons h
    obtain ⟨rfl, rfl⟩ := Directive.setting?_ofLetter hFirst
    cases others with
    | nil =>
      rw [Argument.eq_toText hLetters]
      exact .cons .quietLetter (ih hOnce.tail hRest)
    | cons second others =>
      obtain ⟨setting, settings, rfl, hSecond, _⟩ := Directive.exists_setting_of_cons hRest
      obtain ⟨rfl, rfl⟩ := Directive.setting?_ofLetter hSecond
      exact absurd hOnce (by simp [SetOnce])
  | case5 argument rest name value hNamed ih =>
    obtain ⟨setting, settings, rfl, hFirst, hRest⟩ := Directive.exists_setting_of_cons h
    obtain ⟨rfl, rfl⟩ := Directive.setting?_ofNameAndValue hFirst
    rw [Argument.eq_toText hNamed]
    exact .cons (.promptJoined value) (ih hOnce.tail hRest)
  | case6 argument name hNamed =>
    obtain ⟨setting, settings, rfl, hFirst, hRest⟩ := Directive.exists_setting_of_cons h
    obtain rfl := List.map_eq_nil_iff.mp hRest.symm
    rw [Argument.eq_toText hNamed]
    exact of_flag hFirst .nil
  | case7 argument name hNamed next later value hOperand hPrompt ih =>
    obtain ⟨setting, settings, rfl, ⟨⟩, hRest⟩ := Directive.exists_setting_of_cons h
    obtain ⟨rfl, hValue⟩ := Argument.ofText_eq_operand_iff.mp hOperand
    rw [Argument.eq_toText hNamed, Switch.ofName?_eq_some_iff.mp hPrompt]
    exact .cons (.promptApart hValue) (ih hOnce.tail hRest)
  | case8 argument name hNamed next later _ ih =>
    obtain ⟨setting, settings, rfl, hFirst, hRest⟩ := Directive.exists_setting_of_cons h
    rw [Argument.eq_toText hNamed]
    exact of_flag hFirst (ih hOnce.tail hRest)

end AreSpelled

/-! ## Obeying directives -/

namespace Options
namespace Draft

/-- Whether an option is set. The help and the version are never set. -/
def has (draft : Draft) : Switch → Bool
  | .noColor => draft.noColor
  | .quiet => draft.quiet
  | .prompt => draft.prompt.isSome
  | .help | .version => false

/-- The draft with one more setting. -/
def set (draft : Draft) : Setting → Draft
  | .noColor => { draft with noColor := true }
  | .quiet => { draft with quiet := true }
  | .prompt text => { draft with prompt := some text }

/-- The draft that settings make. -/
def ofSettings (settings : List Setting) : Draft := settings.foldl set empty

theorem has_set (draft : Draft) (setting : Setting) (switch : Switch) :
    (draft.set setting).has switch = (draft.has switch || setting.switch == switch) := by
  cases setting <;> cases switch <;> simp [has, set, Setting.switch]

theorem ofSettings_concat (settings : List Setting) (setting : Setting) :
    ofSettings (settings ++ [setting]) = (ofSettings settings).set setting := by
  rw [ofSettings, List.foldl_append]
  rfl

theorem has_ofSettings {settings : List Setting} {switch : Switch} :
    (ofSettings settings).has switch = true ↔ switch ∈ settings.map Setting.switch := by
  induction settings using List.reverseRecOn with
  | nil => cases switch <;> simp [ofSettings, has, empty]
  | append_singleton settings setting ih =>
    rw [ofSettings_concat, has_set, Bool.or_eq_true, ih, List.map_append, List.mem_append,
      beq_iff_eq, List.map_singleton, List.mem_singleton, eq_comm]

/-- All settings are obeyed alike, once each. -/
theorem obey_of_setting?_eq_some {directive : Directive} {setting : Setting}
    (h : directive.setting? = some setting) (draft : Draft) :
    draft.obey directive =
      if draft.has setting.switch then .error (.misuse .repeatedOption)
      else .ok (draft.set setting) := by
  cases directive with
  | promptApart text => cases text <;> cases h; rfl
  | halt _ => cases h
  | _ => cases h; rfl

theorem obey_of_setting?_eq_none {directive : Directive} (h : directive.setting? = none)
    (draft : Draft) : ∃ reason, draft.obey directive = .error reason := by
  cases directive with
  | promptApart text => cases text <;> cases h; exact ⟨_, rfl⟩
  | halt reason => exact ⟨reason, rfl⟩
  | _ => cases h

/-- A directive is obeyed if it asks for a setting of an option that is not set yet. -/
theorem obey_eq_ok_iff {draft next : Draft} {directive : Directive} :
    draft.obey directive = .ok next ↔
      ∃ setting, directive.setting? = some setting ∧ draft.has setting.switch = false ∧
        next = draft.set setting := by
  cases hSetting : directive.setting? with
  | none =>
    obtain ⟨reason, hObey⟩ := obey_of_setting?_eq_none hSetting draft
    simp [hObey]
  | some setting =>
    rw [obey_of_setting?_eq_some hSetting]
    constructor
    · intro h
      split at h
      · cases h
      · rename_i hNew
        cases h
        exact ⟨setting, rfl, Bool.eq_false_iff.mpr hNew, rfl⟩
    · rintro ⟨_, ⟨⟩, hNew, rfl⟩
      rw [hNew]
      rfl

theorem setOnce_concat {settings : List Setting} {setting : Setting} :
    SetOnce (settings ++ [setting]) ↔
      SetOnce settings ∧ (ofSettings settings).has setting.switch = false := by
  rw [SetOnce, List.map_append, List.map_singleton, List.nodup_append_comm, List.singleton_append,
    List.nodup_cons, ← has_ofSettings, Bool.not_eq_true, and_comm]
  rfl

/-- **Directives are obeyed if they are settings**, none of an option that is set already, and the
draft is then the one that these settings make. -/
theorem obeyAll_eq_ok_iff {before : List Setting} {directives : List Directive} {final : Draft}
    (hBefore : SetOnce before) :
    (ofSettings before).obeyAll directives = .ok final ↔
      ∃ settings, directives.map Directive.setting? = settings.map some ∧
        SetOnce (before ++ settings) ∧ final = ofSettings (before ++ settings) := by
  induction directives generalizing before with
  | nil =>
    rw [obeyAll, Except.ok.injEq]
    constructor
    · rintro rfl
      refine ⟨[], rfl, ?_, ?_⟩ <;> rw [List.append_nil]
      exact hBefore
    · rintro ⟨settings, hSettings, _, rfl⟩
      rw [List.map_eq_nil_iff.mp hSettings.symm, List.append_nil]
  | cons directive rest ih =>
    rw [obeyAll]
    constructor
    · intro h
      split at h
      · cases h
      · rename_i next hObey
        obtain ⟨setting, hSetting, hNew, rfl⟩ := obey_eq_ok_iff.mp hObey
        have hOnce : SetOnce (before ++ [setting]) := setOnce_concat.mpr ⟨hBefore, hNew⟩
        rw [← ofSettings_concat] at h
        obtain ⟨settings, hSettings, hAll, rfl⟩ := (ih hOnce).mp h
        rw [List.append_assoc] at hAll
        refine ⟨setting :: settings, ?_, hAll, ?_⟩
        · rw [List.map_cons, List.map_cons, hSetting, hSettings]
        · rw [List.append_assoc]
          rfl
    · rintro ⟨settings, hSettings, hAll, rfl⟩
      obtain ⟨setting, settings, rfl, hSetting, hRest⟩ :=
        Directive.exists_setting_of_cons hSettings
      rw [List.append_cons] at hAll
      have hOnce : SetOnce (before ++ [setting]) := hAll.sublist (by simp)
      have hObey := obey_eq_ok_iff.mpr ⟨setting, hSetting, (setOnce_concat.mp hOnce).2, rfl⟩
      rw [hObey, ← ofSettings_concat]
      exact (ih hOnce).mpr ⟨settings, hRest, hAll, by rw [List.append_cons]⟩

/-- The draft's prompt is one of those that are set. -/
theorem mem_of_prompt_ofSettings {settings : List Setting} {text : Text}
    (h : (ofSettings settings).prompt = some text) : .prompt text ∈ settings := by
  induction settings using List.reverseRecOn with
  | nil => cases h
  | append_singleton settings setting ih =>
    rw [ofSettings_concat] at h
    rw [List.mem_append, List.mem_singleton]
    cases setting with
    | prompt last =>
      cases h
      exact .inr rfl
    | noColor => exact .inl (ih h)
    | quiet => exact .inl (ih h)

end Draft

/-! ## Sets of options -/

/-- The options that settings make say what the settings are. -/
theorem reflects_ofSettings (settings : List Setting) :
    (Draft.ofSettings settings).finish.Reflects settings where
  noColor := by
    show (Draft.ofSettings settings).has .noColor = true ↔ _
    rw [Draft.has_ofSettings, List.mem_map]
    constructor
    · rintro ⟨setting, hMem, hSwitch⟩
      cases setting <;> cases hSwitch
      exact hMem
    · exact fun hMem => ⟨_, hMem, rfl⟩
  quiet := by
    show (Draft.ofSettings settings).has .quiet = true ↔ _
    rw [Draft.has_ofSettings, List.mem_map]
    constructor
    · rintro ⟨setting, hMem, hSwitch⟩
      cases setting <;> cases hSwitch
      exact hMem
    · exact fun hMem => ⟨_, hMem, rfl⟩
  prompt := by
    cases hPrompt : (Draft.ofSettings settings).prompt with
    | some text =>
      have hSet : (Draft.ofSettings settings).finish.prompt = text := by
        rw [Draft.finish, hPrompt, Option.getD_some]
      exact .inl (hSet ▸ Draft.mem_of_prompt_ofSettings hPrompt)
    | none =>
      refine .inr ⟨by rw [Draft.finish, hPrompt]; rfl, fun text hMem => ?_⟩
      have hHas : (Draft.ofSettings settings).has .prompt = true :=
        Draft.has_ofSettings.mpr (List.mem_map_of_mem hMem)
      rw [Draft.has, hPrompt] at hHas
      cases hHas

/-- What is set once leaves no choice. -/
theorem Reflects.unique {options other : Options} {settings : List Setting}
    (hOnce : SetOnce settings) (h : options.Reflects settings) (hOther : other.Reflects settings) :
    options = other := by
  obtain ⟨noColor, quiet, prompt⟩ := options
  obtain ⟨noColor', quiet', prompt'⟩ := other
  have hNoColor : noColor = noColor' := Bool.eq_iff_iff.mpr (h.noColor.trans hOther.noColor.symm)
  have hQuiet : quiet = quiet' := Bool.eq_iff_iff.mpr (h.quiet.trans hOther.quiet.symm)
  have hPrompt : prompt = prompt' := by
    obtain hSet | ⟨hDefault, hNone⟩ := h.prompt
    · obtain hSet' | ⟨_, hNone'⟩ := hOther.prompt
      · cases List.inj_on_of_nodup_map hOnce hSet hSet' rfl
        rfl
      · exact absurd hSet (hNone' prompt)
    · obtain hSet' | ⟨hDefault', _⟩ := hOther.prompt
      · exact absurd hSet' (hNone prompt')
      · exact hDefault.trans hDefault'.symm
  rw [hNoColor, hQuiet, hPrompt]

/-- The order of settings does not matter. -/
theorem Reflects.perm {options : Options} {settings settings' : List Setting}
    (h : options.Reflects settings) (hPerm : settings.Perm settings') :
    options.Reflects settings' where
  noColor := h.noColor.trans hPerm.mem_iff
  quiet := h.quiet.trans hPerm.mem_iff
  prompt := h.prompt.imp hPerm.mem_iff.mp
    (And.imp_right fun hNone text hMem => hNone text (hPerm.mem_iff.mpr hMem))

theorem ofArguments_of_areSpelled {arguments : List Text} {settings : List Setting}
    (hSpelled : AreSpelled settings arguments) (hOnce : SetOnce settings) :
    ofArguments arguments = .ok (Draft.ofSettings settings).finish := by
  have hObeyed : Draft.empty.obeyAll (Directive.ofArguments arguments) =
      .ok (Draft.ofSettings settings) :=
    (Draft.obeyAll_eq_ok_iff setOnce_nil).mpr
      ⟨settings, hSpelled.map_directives, hOnce, rfl⟩
  rw [ofArguments, hObeyed]

theorem exists_areSpelled_of_ofArguments {arguments : List Text} {options : Options}
    (h : ofArguments arguments = .ok options) :
    ∃ settings, AreSpelled settings arguments ∧ SetOnce settings := by
  rw [ofArguments] at h
  split at h
  · cases h
  · rename_i draft hObeyed
    obtain ⟨settings, hRead, hOnce, _⟩ :=
      (Draft.obeyAll_eq_ok_iff setOnce_nil).mp hObeyed
    exact ⟨settings, .of_directives hOnce hRead, hOnce⟩

/-- **The command line is a set of options.** Arguments are accepted just if they are spellings of
settings, none of an option that is set already, with the mark `--` behind them or not. The options
are then what the settings are, in whatever order and by whatever spelling they came. -/
theorem ofArguments_eq_ok_iff (arguments : List Text) :
    (∀ options, ofArguments arguments = .ok options ↔
      ∃ settings, AreSpelled settings arguments ∧ SetOnce settings ∧ options.Reflects settings) ∧
    ∀ settings settings' other, AreSpelled settings arguments → SetOnce settings →
      AreSpelled settings' other → settings.Perm settings' →
      ∃ options, ofArguments arguments = .ok options ∧ ofArguments other = .ok options := by
  constructor
  · intro options
    constructor
    · intro h
      obtain ⟨settings, hSpelled, hOnce⟩ := exists_areSpelled_of_ofArguments h
      have hAccepted := ofArguments_of_areSpelled hSpelled hOnce
      rw [h, Except.ok.injEq] at hAccepted
      exact ⟨settings, hSpelled, hOnce, hAccepted ▸ reflects_ofSettings settings⟩
    · rintro ⟨settings, hSpelled, hOnce, hReflects⟩
      rw [ofArguments_of_areSpelled hSpelled hOnce,
        hReflects.unique hOnce (reflects_ofSettings settings)]
  · intro settings settings' other hSpelled hOnce hSpelled' hPerm
    have hOnce' : SetOnce settings' := (hPerm.map Setting.switch).nodup_iff.mp hOnce
    have hSame := ((reflects_ofSettings settings).perm hPerm).unique hOnce'
      (reflects_ofSettings settings')
    refine ⟨_, ofArguments_of_areSpelled hSpelled hOnce, ?_⟩
    rw [ofArguments_of_areSpelled hSpelled' hOnce', hSame]

/-- A prompt that looks like an option is joined to its name, and the lone hyphen may stand apart. -/
theorem ofArguments_hyphenPrompt :
    let settings := [Setting.quiet, .prompt "-".toList, .noColor]
    let arguments := ["-q".toList, "--prompt".toList, "-".toList, "--no-color".toList, "--".toList]
    let other := ["--prompt=-".toList, "--no-color".toList, "--quiet".toList]
    AreSpelled settings arguments ∧ SetOnce settings ∧
      ∃ options, ofArguments arguments = .ok options ∧ ofArguments other = .ok options := by
  intro settings arguments other
  have hSpelled : AreSpelled settings arguments :=
    .cons .quietLetter (.cons (.promptApart (.inl rfl)) (.cons .noColor .mark))
  have hOther : AreSpelled [.prompt "-".toList, .noColor, .quiet] other :=
    .cons (.promptJoined "-".toList) (.cons .noColor (.cons .quietName .nil))
  have hOnce : SetOnce settings := by decide
  have hPerm : settings.Perm [.prompt "-".toList, .noColor, .quiet] := by decide
  exact ⟨hSpelled, hOnce, (ofArguments_eq_ok_iff arguments).2 _ _ _ hSpelled hOnce hOther hPerm⟩

end Options
end PocketCalc
