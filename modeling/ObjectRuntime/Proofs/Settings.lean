import ObjectRuntime.Proofs.Settings.LowerCase
import ObjectRuntime.Proofs.Utf8
import ObjectRuntime.Settings
/-!
# Settings from the environment

Each setting is read from a `Variable` of its own, and a value that is not UTF-8 is no value
(`text?_unset`).
-/

namespace ObjectRuntime

/-- The variables that settings are read from. -/
inductive Variable where
  | maxCallDepth
  | logLevel
  | logFile
  | logJson
  | logSpans
  deriving DecidableEq, Repr

namespace Variable

def name : Variable → String
  | maxCallDepth => "KINDRT_MAX_CALL_DEPTH"
  | logLevel => "KINDRT_LOG_LEVEL"
  | logFile => "KINDRT_LOG_FILE"
  | logJson => "KINDRT_LOG_JSON"
  | logSpans => "KINDRT_LOG_SPANS"

/-- Two settings have the same in the field that a variable is for. -/
def SameField (a b : Settings) : Variable → Prop
  | maxCallDepth => a.maxCallDepth = b.maxCallDepth
  | logLevel => a.log.level = b.log.level
  | logFile => a.log.file = b.log.file
  | logJson => a.log.json = b.log.json
  | logSpans => a.log.spans = b.log.spans

theorem sameField_iff {a b : Settings} : (∀ x, SameField a b x) ↔ a = b := by
  constructor
  · intro h
    obtain ⟨depth, ⟨level, file, json, spans⟩⟩ := a
    obtain ⟨depth', ⟨level', file', json', spans'⟩⟩ := b
    obtain rfl : depth = depth' := h .maxCallDepth
    obtain rfl : level = level' := h .logLevel
    obtain rfl : file = file' := h .logFile
    obtain rfl : json = json' := h .logJson
    obtain rfl : spans = spans' := h .logSpans
    rfl
  · rintro rfl x
    cases x <;> rfl

end Variable

/-! ## Values -/

namespace Environment

variable {env env' : Environment} {name : String}

/-- The environment without a variable. -/
def unset (env : Environment) (name : String) : Environment :=
  ⟨fun n => if n = name then none else env.value? n⟩

/-- A variable is set to bytes that are UTF-8. -/
def HoldsText (env : Environment) (x : Variable) : Prop :=
  ∃ b, env.value? x.name = some b ∧ Text.WellFormed b.data.toList

/-- A variable is set to the bytes of a text. -/
def Holds (env : Environment) (x : Variable) (s : String) : Prop :=
  env.value? x.name = some s.toUTF8

theorem text?_eq_some_iff {s : String} :
    env.text? name = some s ↔ env.value? name = some s.toUTF8 := by
  simp only [text?, Option.bind_eq_some_iff, Text.fromUTF8?_eq_some_iff]
  exact ⟨fun ⟨b, hb, hs⟩ => hs ▸ hb, fun h => ⟨_, h, rfl⟩⟩

theorem isSome_text?_iff {x : Variable} : (env.text? x.name).isSome = true ↔ env.HoldsText x := by
  simp only [Option.isSome_iff_exists, text?_eq_some_iff, HoldsText]
  constructor
  · rintro ⟨s, hs⟩
    exact ⟨_, hs, Text.wellFormed_iff_exists_utf8Bytes.2 ⟨s, rfl⟩⟩
  · rintro ⟨b, hb, hwell⟩
    obtain ⟨s, hs⟩ := Text.wellFormed_iff_exists_utf8Bytes.1 hwell
    exact ⟨s, by rw [hb, Text.eq_toUTF8_iff.2 hs.symm]⟩

/-- What is not UTF-8 is no value, as if the variable were not set. -/
theorem text?_unset {x : Variable} (h : ¬ env.HoldsText x) (name : String) :
    (env.unset x.name).text? name = env.text? name := by
  by_cases hname : name = x.name
  · rw [← isSome_text?_iff, Option.not_isSome_iff_eq_none] at h
    rw [hname, h, text?, unset]
    simp
  · rw [text?, text?, unset]
    simp [hname]

end Environment

theorem Settings.ofEnvironment_congr {env env' : Environment}
    (h : ∀ name, env'.text? name = env.text? name) :
    ofEnvironment env' = ofEnvironment env := by
  simp only [ofEnvironment, LogSettings.ofEnvironment, h]

/-! ## Levels -/

namespace Level

/-- How a level is spelled. -/
def word : Level → String
  | error => "error"
  | warn => "warn"
  | info => "info"
  | debug => "debug"
  | trace => "trace"

theorem parse?_eq_some_iff {s : String} {level : Level} :
    parse? s = some level ↔ (Text.strip s.toList).flatMap Text.lower = level.word.toList := by
  unfold parse?
  generalize (Text.strip s.toList).flatMap Text.lower = ds
  have hword : ds = level.word.toList ↔ String.ofList ds = level.word := by
    rw [← String.toList_inj, String.toList_ofList]
  rw [hword]
  generalize String.ofList ds = low
  constructor
  · intro h
    split at h <;> cases h <;> rfl
  · rintro rfl
    cases level <;> rfl

theorem eq_word_iff {t ds : List Char} (h : Text.Lowers t ds) (level : Level) :
    ds = level.word.toList ↔ Text.Spells t level.word := by
  have hword : level.word.toList.all Char.isLower = true ∧ 'k' ∉ level.word.toList := by
    cases level <;> decide
  exact h.eq_iff_spells hword.1 hword.2

theorem parse?_eq_some_iff_spells {s : String} {level : Level} :
    parse? s = some level ↔ Text.Spells (Text.strip s.toList) level.word := by
  rw [parse?_eq_some_iff, eq_word_iff (Text.lowers_lower _)]

end Level

/-- The variable for the level is set to the word of one, in any letter case and with white space
around it. -/
def Environment.Names (env : Environment) (level : Level) : Prop :=
  ∃ s t, env.Holds .logLevel s ∧ Text.Trimmed s.toList t ∧ Text.Spells t level.word

theorem Environment.names_iff {env : Environment} {level : Level} :
    env.Names level ↔ (env.text? Variable.logLevel.name).bind Level.parse? = some level := by
  simp only [Names, Holds, Option.bind_eq_some_iff, text?_eq_some_iff,
    Level.parse?_eq_some_iff_spells, Text.trimmed_iff]
  constructor
  · rintro ⟨s, t, hs, rfl, hspells⟩
    exact ⟨s, hs, hspells⟩
  · rintro ⟨s, hs, hspells⟩
    exact ⟨s, _, hs, rfl, hspells⟩

/-- What the settings for logging are read as. -/
structure LogSettings.ReadFrom (env : Environment) (log : LogSettings) : Prop where
  level : ∀ level, log.level = level ↔
    env.Names level ∨ level = .info ∧ ∀ other, ¬ env.Names other
  file : ∀ path, log.file = some path ↔ path ≠ "" ∧ env.Holds .logFile path
  json : log.json = true ↔ env.HoldsText .logJson
  spans : log.spans = true ↔ env.HoldsText .logSpans

theorem LogSettings.readFrom (env : Environment) : (ofEnvironment env).ReadFrom env where
  level level := by
    simp only [Environment.names_iff]
    change ((env.text? Variable.logLevel.name).bind Level.parse?).getD .info = level ↔ _
    cases (env.text? Variable.logLevel.name).bind Level.parse? with
    | none => simp [eq_comm]
    | some named => simp
  file path := by
    change (env.text? Variable.logFile.name).filter (· ≠ "") = some path ↔ _
    rw [Option.filter_eq_some_iff, Environment.text?_eq_some_iff]
    simp [Environment.Holds, and_comm]
  json := Environment.isSome_text?_iff (x := .logJson)
  spans := Environment.isSome_text?_iff (x := .logSpans)

namespace Settings

/-- **Settings are read field by field.**  What is in a field is up to its own variable, a value
that is not UTF-8 counts as none, and the settings for logging are what their values say.  Lower
case beyond ASCII makes no further text the word of a level. -/
theorem ofEnvironment_fieldwise :
    (∀ a b, (∀ x, Variable.SameField a b x) ↔ a = b) ∧
      (∀ (x : Variable) (env env' : Environment), env.value? x.name = env'.value? x.name →
        Variable.SameField (ofEnvironment env) (ofEnvironment env') x) ∧
      (∀ (x : Variable) (env : Environment) b, env.value? x.name = some b →
        ¬ Text.WellFormed b.data.toList →
        ofEnvironment env = ofEnvironment (env.unset x.name)) ∧
      (∀ env, (ofEnvironment env).log.ReadFrom env) ∧
      ∀ t ds (level : Level), Text.Lowers t ds →
        (ds = level.word.toList ↔ Text.Spells t level.word) := by
  refine ⟨fun a b => Variable.sameField_iff, fun x env env' h => ?_, fun x env b hb hill => ?_,
    LogSettings.readFrom, fun t ds level h => Level.eq_word_iff h level⟩
  · have htext : env.text? x.name = env'.text? x.name := by
      rw [Environment.text?, h]
      rfl
    cases x with
    | maxCallDepth => exact congrArg (fun o => (o.bind DepthCap.parse?).getD .standard) htext
    | logLevel => exact congrArg (fun o => (o.bind Level.parse?).getD .info) htext
    | logFile => exact congrArg (fun o => o.filter (· ≠ "")) htext
    | logJson | logSpans => exact congrArg Option.isSome htext
  · have hnone : ¬ env.HoldsText x := by
      rintro ⟨b', hb', hwell⟩
      cases hb.symm.trans hb'
      exact hill hwell
    exact (ofEnvironment_congr (Environment.text?_unset hnone)).symm

/-- A level in capitals after a wide space, and a switch whose value is not UTF-8. -/
def oddValues : Environment where
  value?
    | "KINDRT_LOG_LEVEL" => some "\u3000WARN".toUTF8
    | "KINDRT_LOG_JSON" => some ⟨#[0xFF]⟩
    | "KINDRT_LOG_SPANS" => some ⟨#[]⟩
    | _ => none

theorem ofEnvironment_fieldwise_oddValues :
    (ofEnvironment oddValues).log.level = .warn ∧ (ofEnvironment oddValues).log.spans = true ∧
      ofEnvironment oddValues = ofEnvironment (oddValues.unset "KINDRT_LOG_JSON") := by
  obtain ⟨-, -, hunset, hread, -⟩ := ofEnvironment_fieldwise
  refine ⟨((hread _).level .warn).2 (.inl ⟨"\u3000WARN", ['W', 'A', 'R', 'N'], rfl, ?_, ?_⟩),
    (hread _).spans.2 ⟨_, rfl, .nil⟩, hunset .logJson oddValues _ rfl ?_⟩
  · rw [Text.trimmed_iff]
    simp only [String.reduceToList]
    decide
  · simp [Text.Spells, Level.word]
  · intro hwell
    obtain ⟨s, hs⟩ := Text.wellFormed_iff_exists_utf8Bytes.1 hwell
    have hread := Text.fromUTF8?_eq_some_iff.2 (Text.eq_toUTF8_iff.2 hs.symm)
    have hnone : String.fromUTF8? ⟨#[0xFF]⟩ = none := rfl
    cases hnone.symm.trans hread

end Settings

end ObjectRuntime
