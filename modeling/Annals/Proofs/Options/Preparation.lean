import Annals.Options.Context
import Annals.Proofs.Json.Nesting
import Annals.Proofs.Text.Lists
import Annals.Proofs.Yaml.Defects

/-!
# When a Run can be Prepared or Refused

Preparing a run comes to a context, or to a fault of the options with a message. It does not
always: there are faults that no message is prepared for, and this says where they are.

Every stage of the preparation is asked by itself what it can break on (`Breaks`), and a
stage is reached only if those before it come to their end (`breaks_bind`). Two files are
read as texts and nothing else, so whatever is in them cannot break the preparation; the
schema alone can, since a text in its format may still spell a value that cannot be made, and
the check of a mapping against its dialect may not come to an end.

## Main definitions

* `Breaks`: Something breaks on a fault that no message is prepared for.
* `Schema.Spoils`: A text that spoils the preparation as a schema.
* `Options.IsSpoiled`: Options with which the preparation breaks.

## Theorems

* `breaks_schemaFile`: What a schema file breaks on.
* `prepare_answers`: When the preparation comes to a context, or to a fault of the options.
-/

namespace Annals

/-- Something breaks on a fault that no message is prepared for. -/
def Breaks {α : Type} (x : Except PrepareFault α) : Prop := ∃ h, x = .error (.halt h)

section Breaks

variable {α β : Type} {x : Except PrepareFault α}

theorem breaks_bind {next : α → Except PrepareFault β} :
    Breaks (x >>= next) ↔ Breaks x ∨ ∃ a, x = .ok a ∧ Breaks (next a) := by
  -- Only the first part can break if it fails, and else only what is made of its result.
  cases x with
  | error f =>
      refine ⟨fun h => Or.inl ?_, fun h => h.elim ?_ ?_⟩
      · rcases h with ⟨h, hf⟩
        cases hf
        exact ⟨h, rfl⟩
      · rintro ⟨own, hf⟩
        cases hf
        exact ⟨own, rfl⟩
      · rintro ⟨a, ha, _⟩
        cases ha
  | ok a =>
      refine ⟨fun h => Or.inr ⟨a, rfl, h⟩, fun h => h.elim ?_ ?_⟩
      · rintro ⟨h, hf⟩
        cases hf
      · rintro ⟨b, hb, h⟩
        cases hb
        exact h

theorem breaks_map {f : α → β} : Breaks (x.map f) ↔ Breaks x := by
  cases x <;> simp [Breaks, Except.map]

theorem not_breaks_ok (a : α) : ¬ Breaks (.ok a) := by
  rintro ⟨h, hf⟩
  cases hf

/-- Faults with a message break nothing. -/
theorem not_breaks_options {ε : Type} {y : Except ε α} {f : ε → OptionFault} :
    ¬ Breaks (y.mapError fun e => .options (f e)) := by
  rintro ⟨h, hf⟩
  cases y <;> cases hf

/-- Something comes to its end, or to a fault of the options, exactly if it does not break. -/
theorem answers_iff_not_breaks :
    ((∃ a, x = .ok a) ∨ ∃ f, x = .error (.options f)) ↔ ¬ Breaks x := by
  unfold Breaks
  cases x with
  | ok a => simp
  | error f => cases f <;> simp

end Breaks

namespace Schema

/-- The value in a text: as YAML, or as JSON. -/
def valueOf (isYaml : Bool) (text : String) : Except FileFault Value :=
  if isYaml then valueOfYaml text else valueOfJson text

/-- A text that spoils the preparation as a schema: it spells a value that cannot be made, a
    number that is too long, or too many values inside each other; or it is a mapping, and the
    check of it does not come to its end. -/
inductive Spoils (isYaml : Bool) (text : String) : Prop where
  | defect {d : Yaml.Defect} : isYaml = true → Yaml.decode false text = .error (.defect d) →
      Spoils isYaml text
  | longNumber {digits : Nat} : isYaml = false → Json.parse text = .error (.longNumber digits) →
      Spoils isYaml text
  | nested : isYaml = false → Json.parse text = .error .nested → Spoils isYaml text
  | unchecked {id : Nat} {entries : List (Value × Value)} {f : Fault} :
      valueOf isYaml text = .ok (.map id entries) → accept (.map id entries) = .error (.fault f) →
      Spoils isYaml text

/-- A YAML text without merged keys spoils the preparation by one of its nodes, or by the check. -/
theorem Spoils.defective {text : String} {root : Nat} {g : Yaml.Graph} (h : Spoils true text)
    (hcompose : Yaml.compose text.toList = .ok (some (root, g))) (hg : g.PlainKeys) :
    (∃ id d, Yaml.Defective g id d) ∨ ∃ id entries f,
      valueOfYaml text = .ok (.map id entries) ∧ accept (.map id entries) = .error (.fault f) := by
  cases h with
  | defect _ hdecode =>
      rcases Yaml.decode_defect hcompose hg hdecode with ⟨id, hdefect⟩
      exact Or.inl ⟨id, _, hdefect⟩
  | longNumber hjson => cases hjson
  | nested hjson => cases hjson
  | unchecked hvalue haccept => exact Or.inr ⟨_, _, _, hvalue, haccept⟩

/-- A JSON text spoils the preparation if it opens too many brackets. -/
theorem spoils_of_brackets {n : Nat} (h : Json.maxNesting < n) (rest : List Char) :
    Spoils false (String.ofList (List.replicate n '[' ++ rest)) :=
  .nested rfl (Json.parse_nested h rest)

end Schema

namespace Options

variable {fs : FileSystem}

theorem breaks_checkPath {p : Path} : Breaks (checkPath p) ↔ p.hasNull = true := by
  unfold checkPath Breaks
  cases p.hasNull <;> simp

theorem breaks_readText {file : OptionFile} {p : Path} :
    Breaks (readText fs file p) ↔ p.hasNull = true := by
  rw [readText, breaks_bind, breaks_checkPath]
  refine or_iff_left ?_
  rintro ⟨_, _, h⟩
  exact not_breaks_options h

/-- The root can be a path that is too long to be looked up. -/
theorem breaks_checkRoot {root : Path} :
    Breaks (checkRoot fs root) ↔ fs.find root = .error .tooLong := by
  have hlook : Breaks ((fs.isDirectory root).mapError fun f => .halt (.workspace (.path f))) ↔
      fs.find root = .error .tooLong := by
    unfold Breaks FileSystem.isDirectory FileSystem.look
    cases fs.find root with
    | ok t => simp [Except.map, Except.mapError]
    | error f => cases f <;> simp [Except.map, Except.mapError]
  rw [checkRoot, breaks_bind, hlook]
  refine or_iff_left ?_
  rintro ⟨found, _, h, hf⟩
  cases found <;> cases hf

theorem checkRoot_ok_iff {root : Path} :
    checkRoot fs root = .ok () ↔ fs.isDirectory root = .ok true := by
  unfold checkRoot
  cases fs.isDirectory root with
  | error f => simp [Except.mapError, bind, Except.bind]
  | ok found => cases found <;> simp [Except.mapError, bind, Except.bind, pure, Except.pure, throw,
      throwThe, MonadExceptOf.throw]

theorem breaks_loaded {α β : Type} {load : α → Except PrepareFault β} {named : Option α} :
    Breaks (loaded load named) ↔ ∃ a ∈ named, Breaks (load a) := by
  cases named with
  | none => simp [loaded, not_breaks_ok]
  | some a => simp [loaded, breaks_map]

theorem loaded_ok_iff {α β : Type} {load : α → Except PrepareFault β} {named : Option α} :
    (∃ found, loaded load named = .ok found) ↔ ∀ a ∈ named, ∃ b, load a = .ok b := by
  cases named with
  | none => simp [loaded]
  | some a => cases h : load a <;> simp [loaded, h, Except.map]

theorem readText_ok_iff (file : OptionFile) {p : Path} :
    (∃ text, readText fs file p = .ok text) ↔
      p.hasNull = false ∧ ∃ text, fs.read p = .ok text := by
  unfold readText checkPath
  cases p.hasNull with
  | true => simp [bind, Except.bind]
  | false => cases fs.read p <;> simp [bind, Except.bind, Except.mapError]

/-- A text whose value cannot be made spoils the preparation as a schema. -/
theorem spoils_of_valueOf {p : Path} {isYaml : Bool} {text : String}
    (h : Breaks ((Schema.valueOf isYaml text).mapError (schemaFileFault p))) :
    Schema.Spoils isYaml text := by
  rcases h with ⟨h, hbreaks⟩
  cases isYaml with
  | true =>
      change (Schema.valueOfYaml text).mapError _ = _ at hbreaks
      unfold Schema.valueOfYaml at hbreaks
      split at hbreaks
      · cases hbreaks
      · rename_i hdecode
        exact .defect rfl hdecode
      · cases hbreaks
  | false =>
      change (Schema.valueOfJson text).mapError _ = _ at hbreaks
      unfold Schema.valueOfJson at hbreaks
      split at hbreaks
      · cases hbreaks
      · cases hbreaks
      · rename_i hparse
        exact .longNumber rfl hparse
      · rename_i hparse
        exact .nested rfl hparse

/-- A text whose value cannot be checked spoils the preparation as a schema. What the check
    refuses has a message, but not what stops it. -/
theorem spoils_of_ofValue {p : Path} {isYaml : Bool} {text : String} {v : Value}
    (hvalue : Schema.valueOf isYaml text = .ok v)
    (h : Breaks ((Schema.ofValue v).mapError (schemaFileFault p))) :
    Schema.Spoils isYaml text := by
  rcases h with ⟨h, hbreaks⟩
  cases v with
  | map id entries =>
      cases haccept : Schema.accept (.map id entries) with
      | ok schema => simp [Schema.ofValue, haccept, Except.mapError] at hbreaks
      | error r =>
          simp only [Schema.ofValue, haccept, Except.mapError] at hbreaks
          cases r with
          | invalid message => cases hbreaks
          | fault f => exact .unchecked hvalue haccept
  | _ => cases hbreaks

/-- A text breaks the preparation as a schema exactly if it spoils it. -/
theorem breaks_text {p : Path} {isYaml : Bool} {text : String} :
    Breaks ((Schema.valueOf isYaml text >>= Schema.ofValue).mapError (schemaFileFault p)) ↔
      Schema.Spoils isYaml text := by
  constructor
  · intro h
    cases hvalue : Schema.valueOf isYaml text with
    | error f =>
        rw [hvalue] at h
        rcases h with ⟨own, hown⟩
        refine spoils_of_valueOf (p := p) ⟨own, ?_⟩
        rw [hvalue]
        exact congrArg Except.error (Except.error.inj hown)
    | ok v =>
        rw [hvalue] at h
        exact spoils_of_ofValue (p := p) hvalue h
  · intro h
    cases h with
    | defect hyaml hdecode =>
        cases hyaml
        simp [Breaks, Schema.valueOf, Schema.valueOfYaml, hdecode, bind, Except.bind,
          Except.mapError, schemaFileFault]
    | longNumber hjson hparse =>
        cases hjson
        simp [Breaks, Schema.valueOf, Schema.valueOfJson, hparse, bind, Except.bind,
          Except.mapError, schemaFileFault]
    | nested hjson hparse =>
        cases hjson
        simp [Breaks, Schema.valueOf, Schema.valueOfJson, hparse, bind, Except.bind,
          Except.mapError, schemaFileFault]
    | unchecked hvalue haccept =>
        simp [Breaks, Schema.ofValue, hvalue, haccept, bind, Except.bind, Except.mapError,
          schemaFileFault, schemaFault]

/-- A schema file breaks the preparation by its path or by its text. -/
theorem breaks_schemaFile {p : Path} :
    Breaks (schemaFile fs p) ↔ p.hasNull = true ∨
      ∃ text, fs.read p = .ok text ∧ Schema.Spoils (Schema.holdsYaml p) text := by
  have hfile : Breaks ((Schema.fromFile fs p).mapError (schemaFileFault p)) ↔
      ∃ text, fs.read p = .ok text ∧ Schema.Spoils (Schema.holdsYaml p) text := by
    cases hread : fs.read p with
    | error f =>
        refine iff_of_false ?_ (by simp)
        rintro ⟨h, hf⟩
        rw [Schema.fromFile, hread] at hf
        cases hf
    | ok text =>
        have hown : Schema.fromFile fs p = Schema.valueOf (Schema.holdsYaml p) text >>=
            Schema.ofValue := by
          rw [Schema.fromFile, hread]
          unfold Schema.valueOf
          cases Schema.holdsYaml p <;> rfl
        rw [hown, breaks_text]
        simp
  -- The file is looked at only if its path has no null character.
  rw [schemaFile, breaks_bind, breaks_checkPath]
  unfold checkPath
  cases p.hasNull with
  | true => simp
  | false => simpa using hfile

/-- The root and the globs can be used. -/
def IsStarted (o : Options) (fs : FileSystem) : Prop :=
  fs.isDirectory o.root = .ok true ∧ checkGlobs o.globs = .ok ()

/-- The file with patterns can be read, if there is one. -/
def HasPatterns (o : Options) (fs : FileSystem) : Prop :=
  ∀ p ∈ o.ignorePath, p.hasNull = false ∧ ∃ text, fs.read p = .ok text

/-- The file with a schema holds one, if there is one. -/
def HasSchema (o : Options) (fs : FileSystem) : Prop :=
  ∀ p ∈ o.schemaPath, ∃ schema, schemaFile fs p = .ok schema

/-- Options with which the preparation breaks: the root is too long to be looked up, the path of a
    file has the null character, or the text of the schema file spoils it. -/
inductive IsSpoiled (o : Options) (fs : FileSystem) : Prop where
  | root : fs.find o.root = .error .tooLong → IsSpoiled o fs
  | ignorePath {p : Path} : o.IsStarted fs → p ∈ o.ignorePath → p.hasNull = true →
      IsSpoiled o fs
  | schemaPath {p : Path} : o.IsStarted fs → o.HasPatterns fs → p ∈ o.schemaPath →
      p.hasNull = true → IsSpoiled o fs
  | schemaText {p : Path} {text : String} : o.IsStarted fs → o.HasPatterns fs →
      p ∈ o.schemaPath → fs.read p = .ok text → Schema.Spoils (Schema.holdsYaml p) text →
      IsSpoiled o fs
  | breakingChangesPath {p : Path} : o.IsStarted fs → o.HasPatterns fs → o.HasSchema fs →
      p ∈ o.breakingChangesPath → p.hasNull = true → IsSpoiled o fs

variable {o : Options} {e : Environment} {remote : Remote} {given : Option Loader}

theorem breaks_ignoreFile {p : Path} : Breaks (ignoreFile fs p) ↔ p.hasNull = true := by
  rw [ignoreFile, breaks_map, breaks_readText]

theorem breaks_breakingChangesFile {p : Path} :
    Breaks (breakingChangesFile fs p) ↔ p.hasNull = true := by
  rw [breakingChangesFile, breaks_map, breaks_readText]

theorem ignoreFile_ok_iff {p : Path} : (∃ lines, ignoreFile fs p = .ok lines) ↔
    p.hasNull = false ∧ ∃ text, fs.read p = .ok text := by
  rw [← readText_ok_iff .ignorePatterns, ignoreFile]
  cases readText fs .ignorePatterns p <;> simp [Except.map]

/-- The preparation breaks at the first stage that does. -/
theorem breaks_prepare : Breaks (o.prepare fs e remote given) ↔ o.IsSpoiled fs := by
  unfold prepare
  simp only [breaks_bind, breaks_checkRoot, breaks_loaded, breaks_ignoreFile, breaks_schemaFile,
    breaks_breakingChangesFile, mapError_eq_ok]
  constructor
  · rintro (hroot | ⟨_, hroot, hglobs | ⟨_, hglobs, ⟨p, hp, hnull⟩ | ⟨more, hmore, hlater⟩⟩⟩)
    · exact .root hroot
    · exact absurd hglobs (not_breaks_options (f := id))
    · exact .ignorePath ⟨checkRoot_ok_iff.mp hroot, hglobs⟩ hp hnull
    · have hstarted : o.IsStarted fs := ⟨checkRoot_ok_iff.mp hroot, hglobs⟩
      have hpatterns : o.HasPatterns fs := fun p hp =>
        ignoreFile_ok_iff.mp (loaded_ok_iff.mp ⟨more, hmore⟩ p hp)
      rcases hlater with ⟨p, hp, hnull | ⟨text, htext, hspoils⟩⟩ | ⟨schema, hschema, hlater⟩
      · exact .schemaPath hstarted hpatterns hp hnull
      · exact .schemaText hstarted hpatterns hp htext hspoils
      · rcases hlater with ⟨p, hp, hnull⟩ | ⟨changes, _, hloader | ⟨_, _, hdone⟩⟩
        · have hloaded : o.HasSchema fs := loaded_ok_iff.mp ⟨schema, hschema⟩
          exact .breakingChangesPath hstarted hpatterns hloaded hp hnull
        · exact absurd hloader (not_breaks_options (f := id))
        · exact absurd hdone (not_breaks_ok _)
  · -- The stages before the one that breaks come to their end.
    have hlater (hstarted : o.IsStarted fs) {P : Prop} (h : P) :
        ∃ a, checkRoot fs o.root = .ok a ∧ (Breaks ((checkGlobs o.globs).mapError .options) ∨
          ∃ b, checkGlobs o.globs = .ok b ∧ P) :=
      ⟨(), checkRoot_ok_iff.mpr hstarted.1, Or.inr ⟨(), hstarted.2, h⟩⟩
    have hfound (hpatterns : o.HasPatterns fs) :
        ∃ more, loaded (ignoreFile fs) o.ignorePath = .ok more :=
      loaded_ok_iff.mpr fun p hp => ignoreFile_ok_iff.mpr (hpatterns p hp)
    rintro (hroot | ⟨hstarted, hp, hnull⟩ | ⟨hstarted, hpatterns, hp, hnull⟩ |
      ⟨hstarted, hpatterns, hp, htext, hspoils⟩ | ⟨hstarted, hpatterns, hschema, hp, hnull⟩)
    · exact Or.inl hroot
    · exact Or.inr (hlater hstarted (Or.inl ⟨_, hp, hnull⟩))
    · rcases hfound hpatterns with ⟨more, hmore⟩
      exact Or.inr (hlater hstarted (Or.inr ⟨more, hmore, Or.inl ⟨_, hp, Or.inl hnull⟩⟩))
    · rcases hfound hpatterns with ⟨more, hmore⟩
      exact Or.inr (hlater hstarted
        (Or.inr ⟨more, hmore, Or.inl ⟨_, hp, Or.inr ⟨_, htext, hspoils⟩⟩⟩))
    · rcases hfound hpatterns with ⟨more, hmore⟩
      rcases loaded_ok_iff.mpr hschema with ⟨schema, hloaded⟩
      exact Or.inr (hlater hstarted
        (Or.inr ⟨more, hmore, Or.inr ⟨schema, hloaded, Or.inl ⟨_, hp, hnull⟩⟩⟩))

/-- Without a schema the preparation does not break, whatever is in the other files. -/
theorem not_isSpoiled (hroot : fs.find o.root ≠ .error .tooLong) (hschema : o.schemaPath = none)
    (hignore : ∀ p ∈ o.ignorePath, p.hasNull = false)
    (hchanges : ∀ p ∈ o.breakingChangesPath, p.hasNull = false) : ¬ o.IsSpoiled fs := by
  rintro (hlong | ⟨_, hp, hnull⟩ | ⟨_, _, hp, _⟩ | ⟨_, _, hp, _⟩ | ⟨_, _, _, hp, hnull⟩)
  · exact hroot hlong
  · exact Bool.false_ne_true ((hignore _ hp).symm.trans hnull)
  · rw [hschema] at hp
    cases hp
  · rw [hschema] at hp
    cases hp
  · exact Bool.false_ne_true ((hchanges _ hp).symm.trans hnull)

/-- A preparation that halts with a message comes to no answer. -/
theorem not_answers_of_message {x : Except PrepareFault Context} {text : String}
    (h : (match x with
      | .error (.halt h) => h.message == text
      | _ => false) = true) :
    (∃ h, x = .error (.halt h) ∧ h.message = text) ∧
      ¬ ((∃ c, x = .ok c) ∨ ∃ f, x = .error (.options f)) := by
  rcases x with (_ | halt) | c
  · cases h
  · exact ⟨⟨halt, rfl, beq_iff_eq.mp h⟩, by simp⟩
  · cases h

end Options

end Annals
