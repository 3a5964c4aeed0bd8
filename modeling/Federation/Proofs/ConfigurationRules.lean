import Mathlib.Tactic.Lemma
import Mathlib.Data.List.Forall2
import Federation.Configuration.Loader
import Federation.Workspace.Memory

/-!
# Which configurations load, and how the others fail

A configuration is loaded from a workspace in memory (`Load`). Loading only reads the workspace.
This module says exactly which documents load, what they give, and which error the others raise
(`load_configuration`).

The rules are stated on the document the configuration's text reads as (`ConfigurationLoads`):
its root is a mapping; its `services` are a non-empty list of mappings, each with a name that is a
string not blank once trimmed, names distinct once trimmed, and exactly one of `inline` and `path`
set (by YAML's truth), that one a string; inline SDL is kept as written, a path leads to a file
whose text is the SDL; the `output` section is absent, null, or a mapping whose paths are null or
strings (a blank one counts as absent) and whose `fail_on_errors` is absent or a boolean.
Relative paths are resolved against the configuration's directory, from the working directory,
and normalised; absolute ones are kept as written.

Loading checks these rules one at a time, in a fixed order (`configurationChecks`). The root comes
first, then the services section, then each entry in turn: is it a mapping, is its name a string,
not blank and not taken before, does it set both `inline` and `path`, is the one it sets a
string, does a path resolve and lead to something, does it set either. The output section comes
last: is it a mapping, are its paths strings, is `fail_on_errors` a boolean, and do its paths
resolve. Each check carries the error it raises, and loading fails with the error of the first
check that does not pass (`firstFailure`).

Every step of loading settles its own rule and its own checks (`Settles`). It succeeds exactly
with the values the rule allows, and fails exactly with the error of its first failing check.
That error is a configuration error, or the failure to resolve a relative path that holds a NUL
character. A loop over the services entries settles the rule for the whole list, by induction on
the entries; the main statement (`configuration_loads_iff`) assembles the steps. A relative output
path with a NUL character is the one way a configuration that keeps every rule fails to load
(`nul_output_path_unresolvable`).
-/

namespace Federation.Configuration

open Workspace Yaml

/-! ### The workspace -/

section Files

variable {ws : Workspace.FileTree} {p : Path}

/-- A path whose text can be read names a file. -/
lemma entryAt_of_readText {t : String} (h : ws.readText p = .ok t) :
    ws.entryAt p = .ok (some .file) := by
  unfold Workspace.FileTree.readText at h
  unfold Workspace.FileTree.entryAt
  cases hl : ws.locate p with
  | error e => simp [hl] at h; cases h
  | ok names =>
    simp only [hl, bind, Except.bind] at h
    simp only [Except.map]
    split at h
    · cases h
    · rename_i he
      rw [he]
    · cases h

/-- The text of a path that names a file can be read. -/
lemma readText_of_entryAt (h : ws.entryAt p = .ok (some .file)) : ∃ t, ws.readText p = .ok t := by
  unfold Workspace.FileTree.entryAt at h
  unfold Workspace.FileTree.readText
  cases hl : ws.locate p with
  | error e => simp [hl, Except.map] at h
  | ok names =>
    simp only [hl, Except.map, Except.ok.injEq] at h
    simp only [bind, Except.bind, h]
    exact ⟨_, rfl⟩

end Files

/-- Loading a configuration from a workspace in memory. -/
abbrev Load := ExceptT LoadError (StateM Workspace.FileTree)

/-- The path a text of a configuration names: a relative one against the configuration's
directory, made absolute from the working directory and normalised; an absolute one as written. -/
def configuredPath (cwd : List String) (base : Path) (raw : String) : Path :=
  if (Path.ofString raw).absolute then Path.ofString raw
  else Path.resolve ⟨true, cwd, false⟩ (base.join (Path.ofString raw))

/-- Whether a text of a configuration cannot be resolved: a relative path that holds a NUL
character. -/
def unresolvable (base : Path) (raw : String) : Bool :=
  !(Path.ofString raw).absolute && (base.join (Path.ofString raw)).holdsNul


/-- Whether a path of a workspace leads to something. -/
def found (ws : Workspace.FileTree) (p : Path) : Bool :=
  match ws.entryAt p with
  | .ok (some _) => true
  | _ => false

/-! ### Loading reads the workspace -/

section Run

variable (ws : Workspace.FileTree)

lemma load_run_bind {α β : Type} (x : Load α) (f : α → Load β) :
    (x >>= f).run.run ws = match x.run.run ws with
      | (.ok a, ws') => (f a).run.run ws'
      | (.error e, ws') => (.error e, ws') := by
  simp only [ExceptT.run_bind, StateT.run_bind]
  rcases x.run.run ws with ⟨_ | _, _⟩ <;> rfl

@[simp] lemma load_run_pure {α : Type} (a : α) : (pure a : Load α).run.run ws = (.ok a, ws) := rfl

@[simp] lemma load_run_throw {α : Type} (e : LoadError) :
    (throw e : Load α).run.run ws = (.error e, ws) := rfl

@[simp] lemma load_run_check {α : Type} (r : Except LoadError α) :
    (check r : Load α).run.run ws = (r, ws) := rfl

@[simp] lemma load_run_entryAt (p : Path) :
    (FileSystem.entryAt p : Load _).run.run ws = (.ok (ws.entryAt p), ws) := rfl

@[simp] lemma load_run_readText (p : Path) :
    (FileSystem.readText p : Load _).run.run ws = (.ok (ws.readText p), ws) := rfl

lemma load_run_pathExists (p : Path) :
    (FileSystem.pathExists p : Load Bool).run.run ws = (.ok (found ws p), ws) := by
  unfold FileSystem.pathExists found
  rw [load_run_bind, load_run_entryAt]
  rcases ws.entryAt p with _ | _ | _ <;> rfl

/-- Resolving a path of a configuration fails only for a relative path holding a NUL character. -/
lemma resolveAgainst_run (base : Path) (raw : String) :
    (resolveAgainst base raw : Load Path).run.run ws =
      ((if unresolvable base raw then .error (.crash nulPathKind nulPathMessage)
        else .ok (configuredPath ws.cwd base raw) : Except LoadError Path), ws) := by
  unfold resolveAgainst unresolvable configuredPath
  by_cases ha : (Path.ofString raw).absolute
  · simp only [ha]
    rfl
  · by_cases hn : (base.join (Path.ofString raw)).holdsNul
    · simp only [ha, hn]
      rfl
    · simp only [ha, hn]
      rfl

end Run

/-! ### The checks loading makes -/

/-- A check loading makes: whether it passes, and the error loading fails with when it does not. -/
structure Check where
  passes : Bool
  error : LoadError

/-- A check of a rule of configurations, which fails with a configuration error. -/
def Check.rule (passes : Bool) (message : String) : Check := ⟨passes, .invalid message⟩

/-- The check that a path resolves, which fails as the system does on a NUL character. -/
def Check.resolves (passes : Bool) : Check := ⟨passes, .crash nulPathKind nulPathMessage⟩

/-- The error of the first check that does not pass. -/
def firstFailure : List Check → Option LoadError
  | [] => none
  | c :: cs => if c.passes then firstFailure cs else some c.error

@[simp] lemma firstFailure_nil : firstFailure [] = none := rfl

@[simp] lemma firstFailure_rule (passes : Bool) (m : String) (cs : List Check) :
    firstFailure (.rule passes m :: cs) = if passes then firstFailure cs else some (.invalid m) :=
  rfl

@[simp] lemma firstFailure_resolves (passes : Bool) (cs : List Check) :
    firstFailure (.resolves passes :: cs) =
      if passes then firstFailure cs else some (.crash nulPathKind nulPathMessage) := rfl

/-- The checks of two steps in sequence fail first where the first step's do, if they do. -/
@[simp] lemma firstFailure_append (cs cs' : List Check) :
    firstFailure (cs ++ cs') = (firstFailure cs).or (firstFailure cs') := by
  induction cs with
  | nil => rfl
  | cons c cs ih => by_cases h : c.passes <;> simp [firstFailure, h, ih]

/-- The text of a value that is a string. -/
def textOf : Option YamlValue → Option String
  | some (.str s) => some s
  | _ => none

/-- The pairs of a value that is a mapping. -/
def mappingOf : Option YamlValue → Option (List (Nat × Nat))
  | some (.map entries) => some entries
  | _ => none

lemma textOf_eq_some_iff {v : Option YamlValue} {s : String} : textOf v = some s ↔ v = some (.str s) := by
  unfold textOf
  split <;> simp_all

lemma mappingOf_eq_some_iff {v : Option YamlValue} {entries : List (Nat × Nat)} :
    mappingOf v = some entries ↔ v = some (.map entries) := by
  unfold mappingOf
  split <;> simp_all

/-- Whether a value can stand for an optional text: absent, null or a string. -/
def isTextSetting : Option YamlValue → Bool
  | none | some .null | some (.str _) => true
  | _ => false

/-- Whether a value can stand for a flag: absent or a boolean. -/
def isFlagSetting : Option YamlValue → Bool
  | none | some (.bool _) => true
  | _ => false

/-- The path an optional text gives: the string trimmed, unless that is blank. -/
def settingText (v : Option YamlValue) : Option String :=
  (textOf v).bind fun s => if (Text.trimBlanks s).isEmpty then none else some (Text.trimBlanks s)

/-- The checks of a services entry's SDL, in order: the entry does not set both `inline` and
`path`; the one it sets is a string; a path resolves against the configuration's directory and
leads to something; and the entry sets one of the two. -/
def sdlChecks (ws : Workspace.FileTree) (d : YamlDocument) (base : Path)
    (entry : List (Nat × Nat)) (label : String) : List Check :=
  let inline := d.lookup entry "inline"
  let path := d.lookup entry "path"
  let byPath := !isSet inline && isSet path
  let raw := (textOf path).getD ""
  [.rule (!(isSet inline && isSet path)) (label ++ " must not set both inline and path."),
    .rule (!isSet inline || (textOf inline).isSome) (label ++ ".inline must be a string."),
    .rule (!byPath || (textOf path).isSome) (label ++ ".path must be a string."),
    .resolves (!byPath || !unresolvable base raw),
    .rule (!byPath || found ws (configuredPath ws.cwd base raw))
      ("SDL file not found: " ++ (configuredPath ws.cwd base raw).toText),
    .rule (isSet inline || isSet path) (label ++ " requires either inline or path.")]

/-- The name of a services entry, trimmed. -/
def entryName (d : YamlDocument) (entry : List (Nat × Nat)) : String :=
  Text.trimBlanks ((textOf (d.lookup entry "name")).getD "")

/-- The label of the services entry at a position, as messages name it. -/
def entryLabel (index : Nat) : String := "services[" ++ toString index ++ "]"

/-- The checks of a services entry that is a mapping, given the names taken before it: its name is
a string, not blank once trimmed and not taken; then its SDL's checks. -/
def entryChecks (ws : Workspace.FileTree) (d : YamlDocument) (base : Path) (label : String)
    (taken : List String) (entry : List (Nat × Nat)) : List Check :=
  Check.rule (textOf (d.lookup entry "name")).isSome (label ++ ".name" ++ " must be a string.") ::
    Check.rule (!(entryName d entry).isEmpty) (label ++ ".name" ++ " must not be empty.") ::
    Check.rule (!taken.contains (entryName d entry)) ("Duplicate service name: " ++ entryName d entry) ::
    sdlChecks ws d base entry label

/-- The checks of the services entries from a position on: each entry is a mapping, and its own
checks come after those of the entries before it, whose names it may not take. -/
def entriesChecks (ws : Workspace.FileTree) (d : YamlDocument) (base : Path) :
    Nat → List YamlValue → List String → List Check
  | _, [], _ => []
  | index, item :: rest, taken =>
    .rule (mappingOf (some item)).isSome
        ("Configuration section '" ++ entryLabel index ++ "' is required.") ::
      (entryChecks ws d base (entryLabel index) taken ((mappingOf (some item)).getD []) ++
        entriesChecks ws d base (index + 1) rest
          (entryName d ((mappingOf (some item)).getD []) :: taken))

/-- The entries of a services section: the items of a non-empty sequence. -/
def servicesItems (d : YamlDocument) : Option YamlValue → Option (List YamlValue)
  | some v => (sequenceItems d v).filter fun xs => !xs.isEmpty
  | none => none

/-- The checks of a services section: it is a non-empty list; then its entries' checks. -/
def servicesChecks (ws : Workspace.FileTree) (d : YamlDocument) (base : Path)
    (value : Option YamlValue) : List Check :=
  .rule (servicesItems d value).isSome "Configuration section 'services' must be a non-empty list." ::
    entriesChecks ws d base 0 ((servicesItems d value).getD []) []

/-- The checks of an output section, none when it is absent or null: it is a mapping, its paths are
absent, null or strings, its `fail_on_errors` is absent or a boolean, and then its paths resolve. -/
def outputChecks (d : YamlDocument) (base : Path) : Option YamlValue → List Check
  | none | some .null => []
  | value =>
    let entry := (mappingOf value).getD []
    let schema := d.lookup entry "schema_path"
    let metadata := d.lookup entry "metadata_path"
    [.rule (mappingOf value).isSome ("Configuration section '" ++ "output" ++ "' is required."),
      .rule (isTextSetting schema) ("output.schema_path" ++ " must be a string."),
      .rule (isTextSetting metadata) ("output.metadata_path" ++ " must be a string."),
      .rule (isFlagSetting (d.lookup entry "fail_on_errors"))
        "output.fail_on_errors must be a boolean.",
      .resolves (!(settingText schema).any (unresolvable base)),
      .resolves (!(settingText metadata).any (unresolvable base))]

/-- Whether a document's root can hold a configuration: a mapping, or nothing. -/
def rootIsMapping (d : YamlDocument) : Bool :=
  match d.rootValue with
  | .null | .map _ => true
  | _ => false

/-- The pairs of a document's root mapping, none for an empty document. -/
def rootEntries (d : YamlDocument) : List (Nat × Nat) := (mappingOf (some d.rootValue)).getD []

/-- The checks loading makes on the document of a configuration read from a path, in order: the
root, the services section and the output section. -/
def configurationChecks (ws : Workspace.FileTree) (d : YamlDocument) (path : Path) : List Check :=
  .rule (rootIsMapping d) "Configuration root must be a mapping." ::
    (servicesChecks ws d path.parent (d.lookup (rootEntries d) "services") ++
      outputChecks d path.parent (d.lookup (rootEntries d) "output"))

/-! ### Steps that settle a rule -/

/-- An outcome of a step of loading settles a rule and a list of checks when it succeeds exactly
with the values the rule allows and fails exactly with the error of the first check that does not
pass; that error is a configuration error, or the failure to resolve a path holding a NUL
character, which `nul` then says is there. -/
structure Settles {α : Type} (rule : α → Prop) (nul : Prop) (checks : List Check)
    (r : Except LoadError α) : Prop where
  ok_iff : ∀ a, r = .ok a ↔ rule a
  error_iff : ∀ e, r = .error e ↔ firstFailure checks = some e
  error : ∀ e, r = .error e → (∃ m, e = .invalid m) ∨ (e = .crash nulPathKind nulPathMessage ∧ nul)

/-- A step of loading that only reads the workspace and whose outcome settles a rule and a list of
checks. -/
def SettledBy {α : Type} (x : Load α) (ws : Workspace.FileTree) (rule : α → Prop) (nul : Prop)
    (checks : List Check) : Prop :=
  ∃ r, x.run.run ws = (r, ws) ∧ Settles rule nul checks r

namespace SettledBy

variable {ws : Workspace.FileTree} {nul nul' : Prop}

/-- A step that succeeds with one value, all its checks passing. -/
lemma ok {α : Type} {x : Load α} {a : α} {rule : α → Prop} {checks : List Check}
    (hx : x.run.run ws = (.ok a, ws)) (hr : ∀ b, rule b ↔ b = a) (hc : firstFailure checks = none) :
    SettledBy x ws rule nul checks :=
  ⟨_, hx, ⟨fun b => by rw [hr b]; simp [eq_comm], fun e => by simp [hc], fun e h => by cases h⟩⟩

lemma pure {α : Type} (a : α) : SettledBy (Pure.pure a : Load α) ws (· = a) nul [] :=
  ok rfl (fun _ => Iff.rfl) rfl

/-- A step that fails with a configuration error, the error of its first failing check, settles
any rule that nothing passes. -/
lemma fails {α : Type} {x : Load α} {rule : α → Prop} {checks : List Check} {m : String}
    (hx : x.run.run ws = (.error (.invalid m), ws)) (hr : ∀ a, ¬ rule a)
    (hc : firstFailure checks = some (.invalid m)) : SettledBy x ws rule nul checks :=
  ⟨_, hx, ⟨fun a => by simpa using hr a, fun e => by simp [hc], fun e h => by
    cases h
    exact .inl ⟨m, rfl⟩⟩⟩

/-- A step that fails to resolve a path holding a NUL character, its first failing check. -/
lemma crashes {α : Type} {x : Load α} {rule : α → Prop} {checks : List Check}
    (hx : x.run.run ws = (.error (.crash nulPathKind nulPathMessage), ws)) (hr : ∀ a, ¬ rule a)
    (hc : firstFailure checks = some (.crash nulPathKind nulPathMessage)) (hn : nul) :
    SettledBy x ws rule nul checks :=
  ⟨_, hx, ⟨fun a => by simpa using hr a, fun e => by simp [hc], fun e h => by
    cases h
    exact .inr ⟨rfl, hn⟩⟩⟩

lemma check {α : Type} {r : Except LoadError α} {rule : α → Prop} {checks : List Check}
    (h : Settles rule nul checks r) : SettledBy (Configuration.check r : Load α) ws rule nul checks :=
  ⟨r, rfl, h⟩

lemma congr {α : Type} {x : Load α} {rule rule' : α → Prop} {checks checks' : List Check}
    (h : SettledBy x ws rule nul checks) (hr : ∀ a, rule a ↔ rule' a) (hn : nul → nul')
    (hc : firstFailure checks = firstFailure checks') : SettledBy x ws rule' nul' checks' := by
  obtain ⟨r, hx, hs⟩ := h
  exact ⟨r, hx, ⟨fun a => (hs.ok_iff a).trans (hr a), fun e => (hs.error_iff e).trans (by rw [hc]),
    fun e he => (hs.error e he).imp_right fun h => ⟨h.1, hn h.2⟩⟩⟩

/-- A check that passes can stand before a step's own. -/
lemma skip {α : Type} {x : Load α} {rule : α → Prop} {c : Check} {checks : List Check}
    (h : SettledBy x ws rule nul checks) (hc : c.passes = true) :
    SettledBy x ws rule nul (c :: checks) :=
  h.congr (fun _ => Iff.rfl) id (by simp [firstFailure, hc])

/-- A step after a check that succeeds is settled as the step alone. -/
lemma check_ok_bind {α β : Type} {a : α} {f : α → Load β} {rule : β → Prop} {checks : List Check}
    (h : SettledBy (f a) ws rule nul checks) :
    SettledBy (Configuration.check (.ok a) >>= f) ws rule nul checks := h

/-- Two steps in sequence settle the rule that some first value passes the first rule and the
result passes the second rule for it, and the first step's checks followed by the second's. The
second step's checks are the same whatever value the first gives. -/
lemma bind {α β : Type} {x : Load α} {f : α → Load β} (rule : α → Prop) (rule' : α → β → Prop)
    (checks' : List Check) {checks : List Check} (hx : SettledBy x ws rule nul checks)
    (hf : ∀ a, rule a → SettledBy (f a) ws (rule' a) nul checks') :
    SettledBy (x >>= f) ws (fun b => ∃ a, rule a ∧ rule' a b) nul (checks ++ checks') := by
  obtain ⟨r, hrun, hs⟩ := hx
  cases r with
  | error e =>
    have he : firstFailure checks = some e := (hs.error_iff e).1 rfl
    refine ⟨.error e, by rw [load_run_bind, hrun], ⟨fun b => ?_, fun e' => ?_, fun e' he' => ?_⟩⟩
    · simp only [reduceCtorEq, false_iff, not_exists, not_and]
      exact fun a ha => absurd ((hs.ok_iff a).2 ha) (by simp)
    · simp [he]
    · cases he'
      exact hs.error e rfl
  | ok a =>
    have ha := (hs.ok_iff a).1 rfl
    -- the first step passes all its checks
    have hnone : firstFailure checks = none := by
      cases h : firstFailure checks with
      | none => rfl
      | some e => cases (hs.error_iff e).2 h
    obtain ⟨r', hrun', hs'⟩ := hf a ha
    refine ⟨r', by rw [load_run_bind, hrun]; exact hrun', ⟨fun b => ?_, fun e => ?_, hs'.error⟩⟩
    · rw [hs'.ok_iff b]
      constructor
      · exact fun h => ⟨a, ha, h⟩
      · rintro ⟨a', ha', hb⟩
        -- the first step succeeds with one value only
        have : a' = a := by simpa using ((hs.ok_iff a').2 ha').symm
        exact this ▸ hb
    · rw [hs'.error_iff e, firstFailure_append, hnone, Option.none_or]

end SettledBy

/-! ### The rules -/

/-- The name of a services entry that loads: a string that is not blank, trimmed. -/
def NameLoads (d : YamlDocument) (entry : List (Nat × Nat)) (name : String) : Prop :=
  ∃ s, d.lookup entry "name" = some (.str s) ∧ name = Text.trimBlanks s ∧ name.isEmpty = false

/-- The SDL of a services entry that loads, with its source: exactly one of `inline` and `path` is
set, and it is a string. Inline SDL is kept as written and has no source; a path must resolve and
lead to a file, whose text is the SDL and which is its source. -/
inductive SdlLoads (ws : Workspace.FileTree) (d : YamlDocument) (base : Path)
    (entry : List (Nat × Nat)) : String × Option Path → Prop
  | inline {sdl : String} : d.lookup entry "inline" = some (.str sdl) → sdl.isEmpty = false →
      isSet (d.lookup entry "path") = false → SdlLoads ws d base entry (sdl, none)
  | file {raw sdl : String} : d.lookup entry "path" = some (.str raw) → raw.isEmpty = false →
      isSet (d.lookup entry "inline") = false → unresolvable base raw = false →
      ws.readText (configuredPath ws.cwd base raw) = .ok sdl →
      SdlLoads ws d base entry (sdl, some (configuredPath ws.cwd base raw))

/-- A services entry that loads as a service: a mapping whose name and SDL load. -/
def EntryLoads (ws : Workspace.FileTree) (d : YamlDocument) (base : Path) (item : YamlValue)
    (src : ServiceSource) : Prop :=
  ∃ entry, item = .map entry ∧ NameLoads d entry src.name ∧
    SdlLoads ws d base entry (src.sdlText, src.sourcePath)

/-- Services entries that load as services, in order, with distinct names, none of them among the
names already taken. -/
def EntriesLoad (ws : Workspace.FileTree) (d : YamlDocument) (base : Path) (items : List YamlValue)
    (taken : List String) (srcs : List ServiceSource) : Prop :=
  List.Forall₂ (EntryLoads ws d base) items srcs ∧ (srcs.map (·.name)).Nodup ∧
    ∀ s ∈ srcs, s.name ∉ taken

/-- A mapping of a document that sets `path` to a text. -/
def NamesPath (d : YamlDocument) (entry : List (Nat × Nat)) (raw : String) : Prop :=
  d.lookup entry "path" = some (.str raw)

/-- A path a document names: the text of the `path` key of one of its mappings. -/
def NamesFile (d : YamlDocument) (raw : String) : Prop :=
  ∃ i entry, d.valueAt i = .map entry ∧ NamesPath d entry raw

/-- The texts that a document's mappings give their `path` key, node by node. -/
def namedPaths (d : YamlDocument) : List String :=
  d.values.toList.flatMap fun
    | .map entry => match d.lookup entry "path" with
      | some (.str raw) => [raw]
      | _ => []
    | _ => []

/-- Every path a document names is among its `namedPaths`, which can be computed. -/
lemma mem_namedPaths_of_namesFile {d : YamlDocument} {raw : String} (h : NamesFile d raw) :
    raw ∈ namedPaths d := by
  obtain ⟨i, entry, hi, hp⟩ := h
  -- a position past the nodes holds null, not a mapping
  have hlt : i < d.values.size := by
    by_contra hn
    simp [YamlDocument.valueAt, hn] at hi
  refine List.mem_flatMap.2 ⟨.map entry, ?_, ?_⟩
  · rw [← hi]
    simp [YamlDocument.valueAt, hlt]
  · simp only [show d.lookup entry "path" = some (.str raw) from hp]
    exact List.mem_singleton_self raw

/-- A services section that loads as the given services: a non-empty list of entries that load,
with distinct names. -/
def ServicesLoad (ws : Workspace.FileTree) (d : YamlDocument) (base : Path) (value : Option YamlValue)
    (srcs : List ServiceSource) : Prop :=
  ∃ is, value = some (.seq is) ∧ is ≠ [] ∧ EntriesLoad ws d base (is.map d.valueAt) [] srcs

/-- The text an optional string setting gives: none when it is absent or null, else the string
trimmed, none when that is empty. -/
def OptionalText (v : Option YamlValue) (t : Option String) : Prop :=
  ((v = none ∨ v = some .null) ∧ t = none) ∨
    ∃ s, v = some (.str s) ∧ t = if (Text.trimBlanks s).isEmpty then none else some (Text.trimBlanks s)

/-- An output path setting that loads as a path, or as none: absent, null or a string; a blank one
counts as absent, any other is trimmed and must resolve against the configuration's directory. -/
def OutputPathLoads (ws : Workspace.FileTree) (base : Path) (v : Option YamlValue) (p : Option Path) :
    Prop :=
  ∃ t, OptionalText v t ∧
    ((t = none ∧ p = none) ∨
      ∃ u, t = some u ∧ unresolvable base u = false ∧ p = some (configuredPath ws.cwd base u))

/-- An output path setting that cannot be resolved: a relative path, once trimmed, holding a NUL
character. -/
def OutputPathUnresolvable (base : Path) (v : Option YamlValue) : Prop :=
  ∃ s, v = some (.str s) ∧ unresolvable base (Text.trimBlanks s) = true

/-- An output section that loads as the given settings: absent or null for the defaults, or a
mapping whose two paths load and whose `fail_on_errors` is absent (false) or a boolean. -/
def OutputLoads (ws : Workspace.FileTree) (d : YamlDocument) (base : Path) (v : Option YamlValue)
    (o : OutputSettings) : Prop :=
  ((v = none ∨ v = some .null) ∧ o = {}) ∨
    ∃ entry, v = some (.map entry) ∧
      OutputPathLoads ws base (d.lookup entry "schema_path") o.schemaPath ∧
      OutputPathLoads ws base (d.lookup entry "metadata_path") o.metadataPath ∧
      ((d.lookup entry "fail_on_errors" = none ∧ o.failOnErrors = false) ∨
        d.lookup entry "fail_on_errors" = some (.bool o.failOnErrors))

/-- A configuration that loads from a document, read from a path: the document is a mapping whose
services section loads as the configuration's services and whose output section loads as its
output settings, and the configuration keeps the path. -/
def ConfigurationLoads (ws : Workspace.FileTree) (d : YamlDocument) (path : Path)
    (c : CompositionConfig) : Prop :=
  c.path = path ∧ ∃ root, d.rootValue = .map root ∧
    ServicesLoad ws d path.parent (d.lookup root "services") c.services ∧
    OutputLoads ws d path.parent (d.lookup root "output") c.output

/-- A document names a relative path that holds a NUL character: as the path of a mapping, or,
once trimmed, as an output path. -/
def HoldsNulPath (d : YamlDocument) (base : Path) : Prop :=
  (∃ raw, NamesFile d raw ∧ unresolvable base raw = true) ∨
    ∃ root entry, d.rootValue = .map root ∧ d.lookup root "output" = some (.map entry) ∧
      (OutputPathUnresolvable base (d.lookup entry "schema_path") ∨
        OutputPathUnresolvable base (d.lookup entry "metadata_path"))

/-! ### The services entries -/

section Entries

variable {ws : Workspace.FileTree} {d : YamlDocument} {base : Path} {nul : Prop}

lemma requireMapping_settles (v : Option YamlValue) (label : String) :
    Settles (fun e => v = some (.map e)) nul
      [.rule (mappingOf v).isSome ("Configuration section '" ++ label ++ "' is required.")]
      (requireMapping v label) := by
  unfold requireMapping
  split
  · exact ⟨fun a => by simp, fun e => by simp [mappingOf], fun e h => by cases h⟩
  · rename_i hv
    have hm : mappingOf v = none :=
      Option.eq_none_iff_forall_ne_some.2 fun e h => hv e (mappingOf_eq_some_iff.1 h)
    refine ⟨fun a => ⟨fun h => (by cases h), fun h => absurd h (hv a)⟩, fun e => by simp [hm],
      fun e h => ?_⟩
    cases h
    exact .inl ⟨_, rfl⟩

lemma requireNonEmptyString_settles (v : Option YamlValue) (field : String) :
    Settles (fun n => ∃ s, v = some (.str s) ∧ n = Text.trimBlanks s ∧ n.isEmpty = false) nul
      [.rule (textOf v).isSome (field ++ " must be a string."),
        .rule (!(Text.trimBlanks ((textOf v).getD "")).isEmpty) (field ++ " must not be empty.")]
      (requireNonEmptyString v field) := by
  unfold requireNonEmptyString
  split
  · rename_i s
    by_cases he : (Text.trimBlanks s).isEmpty
    · -- a blank name
      refine ⟨fun a => ?_, fun e => by simp [textOf, he], fun e h => ?_⟩
      · simp only [he, if_true, reduceCtorEq, false_iff, not_exists, not_and]
        rintro s' ⟨⟩ rfl
        simp [he]
      · simp only [he, if_true, Except.error.injEq] at h
        exact .inl ⟨_, h.symm⟩
    · refine ⟨fun a => ?_, fun e => by simp [textOf, he], fun e h => by simp [he] at h⟩
      simp only [he, Bool.false_eq_true, if_false, Except.ok.injEq, Option.some.injEq,
        YamlValue.str.injEq, exists_eq_left']
      constructor
      · rintro rfl
        simpa using he
      · exact fun h => h.1.symm
  · -- no string at all
    rename_i hv
    have ht : textOf v = none :=
      Option.eq_none_iff_forall_ne_some.2 fun s h => hv s (textOf_eq_some_iff.1 h)
    refine ⟨fun a => ?_, fun e => by simp [ht], fun e h => ?_⟩
    · simp only [reduceCtorEq, false_iff, not_exists, not_and]
      rintro s rfl
      exact absurd rfl (hv s)
    · cases h
      exact .inl ⟨_, rfl⟩

lemma isSet_str {s : String} : isSet (some (.str s)) = !s.isEmpty := rfl

/-- A name that loads is the entry's name. -/
lemma NameLoads.eq_entryName {entry : List (Nat × Nat)} {name : String}
    (h : NameLoads d entry name) : name = entryName d entry := by
  obtain ⟨s, hs, rfl, -⟩ := h
  simp [entryName, hs, textOf]

/-! #### The SDL of an entry, by which of `inline` and `path` it sets -/

section Sdl

variable {entry : List (Nat × Nat)} {label : String}

/-- An entry whose SDL loads from a path does not set `inline`; one whose SDL loads inline does
not set `path`. -/
lemma SdlLoads.inline_unset {x : String × Option Path} (h : SdlLoads ws d base entry x)
    (hp : isSet (d.lookup entry "path") = true) : isSet (d.lookup entry "inline") = false := by
  cases h with
  | inline _ _ hp' => rw [hp] at hp'; cases hp'
  | file _ _ hi _ _ => exact hi

lemma SdlLoads.path_unset {x : String × Option Path} (h : SdlLoads ws d base entry x)
    (hi : isSet (d.lookup entry "inline") = true) : isSet (d.lookup entry "path") = false := by
  cases h with
  | inline _ _ hp => exact hp
  | file _ _ hi' _ _ => rw [hi] at hi'; cases hi'

/-- An entry's SDL loads from a path only as the text of the file the path leads to. -/
lemma SdlLoads.of_path {raw : String} (hraw : d.lookup entry "path" = some (.str raw))
    (hp : isSet (d.lookup entry "path") = true) {x : String × Option Path}
    (h : SdlLoads ws d base entry x) :
    unresolvable base raw = false ∧ x.2 = some (configuredPath ws.cwd base raw) ∧
      ws.readText (configuredPath ws.cwd base raw) = .ok x.1 := by
  cases h with
  | inline _ _ hp' => rw [hp] at hp'; cases hp'
  | file hraw' _ _ hu hread =>
    rw [hraw] at hraw'
    cases hraw'
    exact ⟨hu, rfl, hread⟩

/-- An entry that sets both `inline` and `path` fails its first check. -/
lemma loadSdl_both (hi : isSet (d.lookup entry "inline") = true)
    (hp : isSet (d.lookup entry "path") = true) :
    SettledBy (loadSdl d entry base label) ws (SdlLoads ws d base entry) nul
      (sdlChecks ws d base entry label) := by
  unfold loadSdl
  dsimp only
  simp only [hi, hp, Bool.and_self, ↓reduceIte]
  exact SettledBy.fails rfl (fun x h => absurd (h.path_unset hi) (by simp [hp]))
    (by simp [sdlChecks, hi, hp])

/-- An entry that sets neither `inline` nor `path` fails its last check. -/
lemma loadSdl_neither (hi : isSet (d.lookup entry "inline") = false)
    (hp : isSet (d.lookup entry "path") = false) :
    SettledBy (loadSdl d entry base label) ws (SdlLoads ws d base entry) nul
      (sdlChecks ws d base entry label) := by
  unfold loadSdl
  dsimp only
  simp only [hi, hp, Bool.and_self, Bool.false_eq_true, ↓reduceIte]
  refine SettledBy.fails rfl (fun x h => ?_) (by simp [sdlChecks, hi, hp])
  cases h with
  | inline hs hne _ => simp [hs, isSet_str, hne] at hi
  | file hs hne _ _ _ => simp [hs, isSet_str, hne] at hp

/-- An entry that sets `inline` only loads it as its SDL, with no source, when it is a string. -/
lemma loadSdl_inline (hi : isSet (d.lookup entry "inline") = true)
    (hp : isSet (d.lookup entry "path") = false) :
    SettledBy (loadSdl d entry base label) ws (SdlLoads ws d base entry) nul
      (sdlChecks ws d base entry label) := by
  unfold loadSdl
  dsimp only
  simp only [hi, hp, Bool.and_false, Bool.false_eq_true, ↓reduceIte]
  split
  · rename_i s hs
    have hi' : isSet (some (YamlValue.str s)) = true := hs ▸ hi
    refine SettledBy.ok rfl (fun x => ⟨fun h => ?_, ?_⟩)
      (by simp [sdlChecks, hp, hs, hi', textOf])
    · cases h with
      | inline hs' _ _ => rw [hs] at hs'; cases hs'; rfl
      | file _ _ hi' _ _ => rw [hi] at hi'; cases hi'
    · rintro rfl
      exact .inline hs (by simpa [hs, isSet_str] using hi) hp
  · rename_i hv
    have ht : textOf (d.lookup entry "inline") = none :=
      Option.eq_none_iff_forall_ne_some.2 fun s h => hv s (textOf_eq_some_iff.1 h)
    refine SettledBy.fails rfl (fun x h => ?_) (by simp [sdlChecks, hi, hp, ht])
    cases h with
    | inline hs' _ _ => exact hv _ hs'
    | file _ _ hi' _ _ => rw [hi] at hi'; cases hi'

/-- An entry that sets `path` only, to a string: the path must resolve, and lead to a file, whose
text is the SDL and which is its source. -/
lemma loadSdl_file {raw : String} (hi : isSet (d.lookup entry "inline") = false)
    (hraw : d.lookup entry "path" = some (.str raw)) (hp : isSet (d.lookup entry "path") = true)
    (hdir : ws.entryAt (configuredPath ws.cwd base raw) ≠ .ok (some .directory)) :
    SettledBy (do
        let sdlPath ← resolveAgainst base raw
        if !(← FileSystem.pathExists sdlPath) then
          throw (.invalid ("SDL file not found: " ++ sdlPath.toText))
        match ← FileSystem.readText sdlPath with
        | .ok text => return (text, some sdlPath)
        | .error e => throw (.system e) : Load (String × Option Path)) ws
      (SdlLoads ws d base entry) (∃ raw, NamesPath d entry raw ∧ unresolvable base raw = true)
      (sdlChecks ws d base entry label) := by
  have ht : textOf (d.lookup entry "path") = some raw := textOf_eq_some_iff.2 hraw
  have hnone : ∀ sdl, ¬ SdlLoads ws d base entry (sdl, none) := fun sdl h =>
    absurd (SdlLoads.of_path hraw hp h).2.1 (by simp)
  cases hu : unresolvable base raw
  · by_cases hf : ws.entryAt (configuredPath ws.cwd base raw) = .ok (some .file)
    · -- the path leads to a file: its text is the SDL
      obtain ⟨t, hread⟩ := readText_of_entryAt hf
      refine SettledBy.ok (a := (t, some (configuredPath ws.cwd base raw))) ?_ (fun x => ⟨?_, ?_⟩)
        (by simp [sdlChecks, hi, hp, ht, hu, found, hf])
      · simp only [load_run_bind, resolveAgainst_run, hu, Bool.false_eq_true, ↓reduceIte,
          load_run_pathExists, found, hf, Bool.not_true, load_run_readText, hread, load_run_pure]
      · intro h
        obtain ⟨-, hsrc, hread'⟩ := SdlLoads.of_path hraw hp h
        rw [hread] at hread'
        cases hread'
        exact Prod.ext rfl hsrc
      · rintro rfl
        exact .file hraw (by simpa [hraw, isSet_str] using hp) hi hu hread
    · -- nothing is there: the path leads to no directory either
      have hfound : found ws (configuredPath ws.cwd base raw) = false := by
        unfold found
        rcases h : ws.entryAt (configuredPath ws.cwd base raw) with _ | _ | (_ | _)
        · rfl
        · rfl
        · exact absurd h hf
        · exact absurd h hdir
      refine SettledBy.fails (m := "SDL file not found: " ++ (configuredPath ws.cwd base raw).toText)
        ?_ (fun x h => ?_) (by simp [sdlChecks, hi, hp, ht, hu, hfound])
      · simp only [load_run_bind, resolveAgainst_run, hu, Bool.false_eq_true, ↓reduceIte,
          load_run_pathExists, hfound, Bool.not_false, load_run_throw]
      · obtain ⟨-, -, hread⟩ := SdlLoads.of_path hraw hp h
        exact hf (entryAt_of_readText hread)
  · -- a relative path holding a NUL character cannot be resolved
    refine SettledBy.crashes ?_ (fun x h => ?_) (by simp [sdlChecks, hi, hp, ht, hu])
      ⟨raw, hraw, hu⟩
    · simp only [load_run_bind, resolveAgainst_run, hu, ↓reduceIte]
    · rw [(SdlLoads.of_path hraw hp h).1] at hu
      cases hu

/-- An entry that sets `path` only loads its SDL from the file the path leads to, when the path
is a string. -/
lemma loadSdl_path (hi : isSet (d.lookup entry "inline") = false)
    (hp : isSet (d.lookup entry "path") = true)
    (hdir : ∀ raw, NamesPath d entry raw →
      ws.entryAt (configuredPath ws.cwd base raw) ≠ .ok (some .directory)) :
    SettledBy (loadSdl d entry base label) ws (SdlLoads ws d base entry)
      (∃ raw, NamesPath d entry raw ∧ unresolvable base raw = true)
      (sdlChecks ws d base entry label) := by
  unfold loadSdl
  dsimp only
  simp only [hi, hp, Bool.and_true, Bool.false_eq_true, ↓reduceIte]
  split
  · rename_i raw hraw
    exact loadSdl_file hi hraw hp (hdir raw hraw)
  · rename_i hv
    have ht : textOf (d.lookup entry "path") = none :=
      Option.eq_none_iff_forall_ne_some.2 fun s h => hv s (textOf_eq_some_iff.1 h)
    refine SettledBy.fails rfl (fun x h => ?_) (by simp [sdlChecks, hi, hp, ht])
    cases h with
    | inline _ _ hp' => rw [hp] at hp'; cases hp'
    | file hs _ _ _ _ => exact hv _ hs

/-- Reading the SDL of an entry settles its rule and its checks, when a path the entry sets leads
to no directory; it fails to resolve only a relative path holding a NUL character. -/
lemma loadSdl_settles
    (hdir : ∀ raw, NamesPath d entry raw →
      ws.entryAt (configuredPath ws.cwd base raw) ≠ .ok (some .directory)) :
    SettledBy (loadSdl d entry base label) ws (SdlLoads ws d base entry)
      (∃ raw, NamesPath d entry raw ∧ unresolvable base raw = true)
      (sdlChecks ws d base entry label) := by
  cases hi : isSet (d.lookup entry "inline") <;> cases hp : isSet (d.lookup entry "path")
  · exact loadSdl_neither hi hp
  · exact loadSdl_path hi hp hdir
  · exact loadSdl_inline hi hp
  · exact loadSdl_both hi hp

end Sdl

/-- Entries load when the first is a mapping whose name loads and is new and whose SDL loads, and
the others load with its name taken. -/
lemma entriesLoad_cons {item : YamlValue} {rest : List YamlValue} {taken : List String}
    {srcs : List ServiceSource} :
    EntriesLoad ws d base (item :: rest) taken srcs ↔
      ∃ entry, item = .map entry ∧ ∃ name, NameLoads d entry name ∧ name ∉ taken ∧
        ∃ x, SdlLoads ws d base entry x ∧ ∃ others, EntriesLoad ws d base rest (name :: taken) others ∧
          srcs = ⟨name, x.1, x.2⟩ :: others := by
  constructor
  · rintro ⟨hall, hnodup, htaken⟩
    obtain ⟨src, others, ⟨entry, rfl, hname, hsdl⟩, hrest, rfl⟩ := List.forall₂_cons_left_iff.1 hall
    simp only [List.map_cons, List.nodup_cons, List.mem_map] at hnodup
    refine ⟨entry, rfl, src.name, hname, htaken src List.mem_cons_self, _, hsdl, others,
      ⟨hrest, hnodup.2, fun s hs => ?_⟩, rfl⟩
    -- a later name is neither the first one nor taken before
    simp only [List.mem_cons, not_or]
    exact ⟨fun h => hnodup.1 ⟨s, hs, h⟩, htaken s (List.mem_cons_of_mem _ hs)⟩
  · rintro ⟨entry, rfl, name, hname, hnot, x, hsdl, others, ⟨hrest, hnodup, htaken⟩, rfl⟩
    refine ⟨.cons ⟨entry, rfl, hname, hsdl⟩ hrest, ?_, ?_⟩
    · simp only [List.map_cons, List.nodup_cons, List.mem_map, not_exists, not_and]
      exact ⟨fun s hs h => htaken s hs (h ▸ List.mem_cons_self), hnodup⟩
    · simp only [List.mem_cons, forall_eq_or_imp]
      exact ⟨hnot, fun s hs => fun h => htaken s hs (List.mem_cons_of_mem _ h)⟩

/-- The loop over the services entries settles the rule for all of them, and their checks, when
the paths they set lead to no directory. By induction on the entries: each entry must be a
mapping, its name must load and be new, its SDL must load, and the entries after it follow with
its name taken. -/
lemma go_settles (index : Nat) (items : List YamlValue) (taken : List String)
    (hdir : ∀ item ∈ items, ∀ entry raw, item = .map entry → NamesPath d entry raw →
      ws.entryAt (configuredPath ws.cwd base raw) ≠ .ok (some .directory)) :
    SettledBy (parseServices.go d base index items taken) ws (EntriesLoad ws d base items taken)
      (∃ item ∈ items, ∃ entry raw, item = .map entry ∧ NamesPath d entry raw ∧
        unresolvable base raw = true) (entriesChecks ws d base index items taken) := by
  induction items generalizing index taken with
  | nil =>
    refine SettledBy.ok rfl (fun srcs => ⟨fun h => List.forall₂_nil_left_iff.1 h.1, ?_⟩) rfl
    rintro rfl
    simp [EntriesLoad]
  | cons item rest ih =>
    rw [parseServices.go]
    dsimp only
    -- the entry's own checks come first; the later entries' checks follow with its name taken
    refine (SettledBy.bind (fun entry => some item = some (.map entry))
      (fun entry srcs => ∃ name, NameLoads d entry name ∧ name ∉ taken ∧
        ∃ x, SdlLoads ws d base entry x ∧ ∃ others, EntriesLoad ws d base rest (name :: taken) others ∧
          srcs = ⟨name, x.1, x.2⟩ :: others)
      (entryChecks ws d base (entryLabel index) taken ((mappingOf (some item)).getD []) ++
        entriesChecks ws d base (index + 1) rest
          (entryName d ((mappingOf (some item)).getD []) :: taken))
      (SettledBy.check (requireMapping_settles (some item) _)) fun entry hentry => ?_).congr
      (fun srcs => ?_) id (by simp [entriesChecks, entryLabel])
    · obtain rfl : item = .map entry := Option.some.inj hentry
      have hmap : (mappingOf (some (YamlValue.map entry))).getD [] = entry := rfl
      rw [hmap]
      refine (SettledBy.bind (NameLoads d entry) (fun name srcs => name ∉ taken ∧
          ∃ x, SdlLoads ws d base entry x ∧ ∃ others, EntriesLoad ws d base rest (name :: taken) others ∧
            srcs = ⟨name, x.1, x.2⟩ :: others)
        (Check.rule (!taken.contains (entryName d entry)) ("Duplicate service name: " ++ entryName d entry) ::
          sdlChecks ws d base entry (entryLabel index) ++
            entriesChecks ws d base (index + 1) rest (entryName d entry :: taken))
        (SettledBy.check (requireNonEmptyString_settles _ _)) fun name hname => ?_).congr
        (fun _ => Iff.rfl) id (by simp [entryChecks, entryName, entryLabel])
      obtain rfl := hname.eq_entryName
      split
      · -- a name taken before
        rename_i htaken
        have hmem : entryName d entry ∈ taken := by simpa using htaken
        exact SettledBy.fails rfl (fun srcs h => h.1 hmem) (by simp [hmem])
      · rename_i hnew
        have hnot : entryName d entry ∉ taken := by simpa using hnew
        refine (SettledBy.bind (SdlLoads ws d base entry)
          (fun x srcs => ∃ others, EntriesLoad ws d base rest (entryName d entry :: taken) others ∧
            srcs = ⟨entryName d entry, x.1, x.2⟩ :: others)
          (entriesChecks ws d base (index + 1) rest (entryName d entry :: taken) ++ [])
          ((loadSdl_settles fun raw hraw =>
              hdir (.map entry) List.mem_cons_self entry raw rfl hraw).congr
            (fun _ => Iff.rfl) (fun ⟨raw, hraw, hu⟩ =>
              ⟨.map entry, List.mem_cons_self, entry, raw, rfl, hraw, hu⟩) rfl)
          fun x _ => SettledBy.bind (EntriesLoad ws d base rest (entryName d entry :: taken))
            (fun others srcs => srcs = ⟨entryName d entry, x.1, x.2⟩ :: others) []
            ((ih _ _ fun i hi => hdir i (List.mem_cons_of_mem _ hi)).congr (fun _ => Iff.rfl)
              (fun ⟨i, hi, rest'⟩ => ⟨i, List.mem_cons_of_mem _ hi, rest'⟩) rfl)
            fun others _ => SettledBy.pure _).congr (fun srcs => ?_) id (by simp [hnot, entryLabel])
        exact ⟨fun h => ⟨hnot, h⟩, fun h => h.2⟩
    · simpa only [Option.some.injEq] using entriesLoad_cons.symm

/-- The mappings among the items of a sequence are mappings of the document: the other kinds of
sequences hold pairs and numbers only. -/
lemma exists_valueAt_of_sequenceItems {v : YamlValue} {items : List YamlValue}
    (h : sequenceItems d v = some items) {item : YamlValue} (hi : item ∈ items)
    {entry : List (Nat × Nat)} (he : item = .map entry) : ∃ i, d.valueAt i = .map entry := by
  cases v <;> simp only [sequenceItems, Option.some.injEq, reduceCtorEq] at h <;> subst h
  case seq is =>
    obtain ⟨i, -, rfl⟩ := List.mem_map.1 hi
    exact ⟨i, he⟩
  case pairs ps =>
    obtain ⟨x, -, rfl⟩ := List.mem_map.1 hi
    cases he
  case bytes bs =>
    obtain ⟨x, -, rfl⟩ := List.mem_map.1 hi
    cases he

/-- A sequence whose items all load as entries, and there is at least one, is a list. -/
lemma seq_of_sequenceItems {v : YamlValue} {items : List YamlValue} (h : sequenceItems d v = some items)
    (hne : items ≠ []) {srcs : List ServiceSource} (hload : EntriesLoad ws d base items [] srcs) :
    ∃ is, v = .seq is ∧ items = is.map d.valueAt := by
  obtain ⟨x, xs, rfl⟩ := List.exists_cons_of_ne_nil hne
  obtain ⟨src, -, ⟨entry, he, -⟩, -⟩ := List.forall₂_cons_left_iff.1 hload.1
  cases v <;> simp only [sequenceItems, Option.some.injEq, reduceCtorEq] at h
  case seq is => exact ⟨is, rfl, h.symm⟩
  case pairs ps =>
    obtain ⟨p, -, hp⟩ := List.mem_map.1 (h ▸ List.mem_cons_self : x ∈ ps.map _)
    rw [← hp] at he
    cases he
  case bytes bs =>
    obtain ⟨b, -, hb⟩ := List.mem_map.1 (h ▸ List.mem_cons_self : x ∈ bs.map _)
    rw [← hb] at he
    cases he

/-- The services section settles its rule and its checks, when the paths the document names lead
to no directory. -/
lemma parseServices_settles (value : Option YamlValue)
    (hdir : ∀ raw, NamesFile d raw →
      ws.entryAt (configuredPath ws.cwd base raw) ≠ .ok (some .directory)) :
    SettledBy (parseServices d value base) ws (ServicesLoad ws d base value)
      (∃ raw, NamesFile d raw ∧ unresolvable base raw = true) (servicesChecks ws d base value) := by
  have hnot : ∀ srcs, ¬ ServicesLoad ws d base none srcs := fun srcs ⟨is, hv, _⟩ => by cases hv
  unfold parseServices
  cases value with
  | none => exact SettledBy.fails rfl hnot (by simp [servicesChecks, servicesItems])
  | some v =>
    dsimp only
    cases hitems : (sequenceItems d v).filter fun xs => !xs.isEmpty with
    | none =>
      refine SettledBy.fails rfl (fun srcs ⟨is, hv, hne, _⟩ => ?_)
        (by simp [servicesChecks, servicesItems, hitems])
      cases hv
      simp [sequenceItems, hne] at hitems
    | some items =>
      obtain ⟨hseq, hne⟩ := Option.filter_eq_some_iff.1 hitems
      replace hne : items ≠ [] := by simpa using hne
      refine (go_settles 0 items [] fun item hi entry raw he hraw => ?_).congr (fun srcs => ?_)
        (fun ⟨item, hi, entry, raw, he, hraw, hu⟩ => ?_)
        (by simp [servicesChecks, servicesItems, hitems])
      · obtain ⟨i, hi⟩ := exists_valueAt_of_sequenceItems hseq hi he
        exact hdir raw ⟨i, entry, hi, hraw⟩
      · constructor
        · intro h
          obtain ⟨is, rfl, rfl⟩ := seq_of_sequenceItems hseq hne h
          exact ⟨is, rfl, by simpa using hne, h⟩
        · rintro ⟨is, hv, -, h⟩
          cases hv
          simp only [sequenceItems, Option.some.injEq] at hseq
          exact hseq ▸ h
      · obtain ⟨i, hi⟩ := exists_valueAt_of_sequenceItems hseq hi he
        exact ⟨raw, ⟨i, entry, hi, hraw⟩, hu⟩

end Entries

/-! ### The output section -/

section Output

variable {ws : Workspace.FileTree} {d : YamlDocument} {base : Path} {nul : Prop}

/-- An optional text setting gives at most one text: the one `settingText` reads off it. -/
lemma OptionalText.eq_settingText {v : Option YamlValue} {t : Option String} (h : OptionalText v t) :
    t = settingText v := by
  rcases h with ⟨hv | hv, rfl⟩ | ⟨s, rfl, rfl⟩ <;> simp_all [settingText, textOf]

lemma optionalString_settles (v : Option YamlValue) (field : String) :
    Settles (OptionalText v) nul [.rule (isTextSetting v) (field ++ " must be a string.")]
      (optionalString v field) := by
  unfold optionalString OptionalText
  split
  · refine ⟨fun t => ⟨fun h => .inl ⟨.inl rfl, (Except.ok.inj h).symm⟩, ?_⟩,
      fun e => by simp [isTextSetting], fun e h => by cases h⟩
    rintro (⟨-, rfl⟩ | ⟨s, h, -⟩)
    · rfl
    · cases h
  · refine ⟨fun t => ⟨fun h => .inl ⟨.inr rfl, (Except.ok.inj h).symm⟩, ?_⟩,
      fun e => by simp [isTextSetting], fun e h => by cases h⟩
    rintro (⟨-, rfl⟩ | ⟨s, h, -⟩)
    · rfl
    · cases h
  · rename_i s
    refine ⟨fun t => ⟨fun h => .inr ⟨s, rfl, (Except.ok.inj h).symm⟩, ?_⟩,
      fun e => by simp [isTextSetting], fun e h => by cases h⟩
    rintro (⟨h | h, -⟩ | ⟨s', h, rfl⟩)
    · cases h
    · cases h
    · cases h
      rfl
  · rename_i hnone hnull hstr
    -- any other value is no text setting
    have hset : isTextSetting v = false := by
      unfold isTextSetting
      split
      · exact absurd rfl hnone
      · exact absurd rfl hnull
      · exact absurd rfl (hstr _)
      · rfl
    refine ⟨fun t => ?_, fun e => by simp [hset], fun e h => ?_⟩
    · simp only [reduceCtorEq, false_iff, not_or, not_and, not_exists]
      exact ⟨fun h => (h.elim hnone hnull).elim, fun s h => absurd h (hstr s)⟩
    · cases h
      exact .inl ⟨_, rfl⟩

lemma failOnErrorsSetting_settles (v : Option YamlValue) :
    Settles (fun b => (v = none ∧ b = false) ∨ v = some (.bool b)) nul
      [.rule (isFlagSetting v) "output.fail_on_errors must be a boolean."]
      (failOnErrorsSetting v) := by
  unfold failOnErrorsSetting
  cases v with
  | none => exact ⟨fun b => by simp [eq_comm], fun e => by simp [isFlagSetting], fun e h => by cases h⟩
  | some x =>
    cases x
    case bool b =>
      exact ⟨fun b' => by simp [eq_comm], fun e => by simp [isFlagSetting], fun e h => by cases h⟩
    all_goals exact ⟨fun b => by simp, fun e => by simp [isFlagSetting],
      fun e h => by cases h; exact .inl ⟨_, rfl⟩⟩

/-- Resolving an optional path fails only for a relative path holding a NUL character. -/
lemma resolveOptional_settles (t : Option String) :
    SettledBy (resolveOptional base t : Load (Option Path)) ws
      (fun p => (t = none ∧ p = none) ∨
        ∃ u, t = some u ∧ unresolvable base u = false ∧ p = some (configuredPath ws.cwd base u))
      (∃ u, t = some u ∧ unresolvable base u = true) [.resolves (!t.any (unresolvable base))] := by
  cases t with
  | none =>
    refine SettledBy.ok rfl (fun p => ⟨?_, fun h => .inl ⟨rfl, h⟩⟩) rfl
    rintro (⟨-, h⟩ | ⟨u, hu, -⟩)
    · exact h
    · cases hu
  | some u =>
    cases hu : unresolvable base u
    · refine SettledBy.ok (a := some (configuredPath ws.cwd base u)) ?_ (fun p => ⟨?_, ?_⟩)
        (by simp [hu])
      · simp only [resolveOptional, map_eq_pure_bind, load_run_bind, resolveAgainst_run, hu,
          Bool.false_eq_true, ↓reduceIte, load_run_pure]
      · rintro (⟨h, -⟩ | ⟨u', h, -, rfl⟩)
        · cases h
        · cases h
          rfl
      · rintro rfl
        exact .inr ⟨u, rfl, hu, rfl⟩
    · refine SettledBy.crashes ?_ (fun p => by simp [hu]) (by simp [hu]) ⟨u, rfl, hu⟩
      simp only [resolveOptional, map_eq_pure_bind, load_run_bind, resolveAgainst_run, hu,
        ↓reduceIte]

/-- A setting whose text resolves to nothing is an output path that cannot be resolved. -/
lemma OptionalText.unresolvable {v : Option YamlValue} {t : Option String} (h : OptionalText v t)
    {u : String} (hu : t = some u) (hres : Configuration.unresolvable base u = true) :
    OutputPathUnresolvable base v := by
  rcases h with ⟨-, rfl⟩ | ⟨s, rfl, rfl⟩
  · cases hu
  · refine ⟨s, rfl, ?_⟩
    split at hu
    · cases hu
    · cases hu
      exact hres

/-- An output section that is a mapping passes its first check; its settings are checked one by
one, then its paths resolved, the checks of each read off the document. -/
lemma parseOutput_map_settles (e : List (Nat × Nat)) :
    SettledBy (parseOutput d (some (.map e)) base) ws (OutputLoads ws d base (some (.map e)))
      (∃ entry, some (YamlValue.map e) = some (.map entry) ∧
        (OutputPathUnresolvable base (d.lookup entry "schema_path") ∨
          OutputPathUnresolvable base (d.lookup entry "metadata_path")))
      (outputChecks d base (some (.map e))) := by
  -- the checks of each step, in the order the steps make them
  have hchecks : outputChecks d base (some (.map e)) =
      .rule true ("Configuration section '" ++ "output" ++ "' is required.") ::
        ([.rule (isTextSetting (d.lookup e "schema_path")) ("output.schema_path" ++ " must be a string.")] ++
          ([.rule (isTextSetting (d.lookup e "metadata_path"))
              ("output.metadata_path" ++ " must be a string.")] ++
            ([.rule (isFlagSetting (d.lookup e "fail_on_errors"))
                "output.fail_on_errors must be a boolean."] ++
              ([.resolves (!(settingText (d.lookup e "schema_path")).any (unresolvable base))] ++
                ([.resolves (!(settingText (d.lookup e "metadata_path")).any (unresolvable base))] ++
                  []))))) := rfl
  unfold parseOutput
  change SettledBy (check (.ok e) >>= _) ws _ _ _
  rw [hchecks]
  refine SettledBy.check_ok_bind (SettledBy.skip ?_ rfl)
  refine (SettledBy.bind _ _ _ (SettledBy.check (optionalString_settles _ _)) fun sp hsp =>
    SettledBy.bind _ _ _ (SettledBy.check (optionalString_settles _ _)) fun mp hmp =>
    SettledBy.bind _ _ _ (SettledBy.check (failOnErrorsSetting_settles _)) fun b _ =>
    SettledBy.bind _ _ _ ((resolveOptional_settles sp).congr (fun _ => Iff.rfl)
      (fun ⟨u, hu, hres⟩ => ⟨e, rfl, .inl (hsp.unresolvable hu hres)⟩)
      (by rw [hsp.eq_settingText])) fun q _ =>
    SettledBy.bind _ _ _ ((resolveOptional_settles mp).congr (fun _ => Iff.rfl)
      (fun ⟨u, hu, hres⟩ => ⟨e, rfl, .inr (hmp.unresolvable hu hres)⟩)
      (by rw [hmp.eq_settingText])) fun q' _ => SettledBy.pure _).congr
    (fun o => ?_) id rfl
  constructor
  · rintro ⟨sp, hsp, mp, hmp, b, hb, q, hq, q', hq', rfl⟩
    exact .inr ⟨e, rfl, ⟨sp, hsp, hq⟩, ⟨mp, hmp, hq'⟩, hb⟩
  · rintro (⟨hv, -⟩ | ⟨entry, hentry, ⟨sp, hsp, hq⟩, ⟨mp, hmp, hq'⟩, hb⟩)
    · simp at hv
    · cases hentry
      exact ⟨sp, hsp, mp, hmp, _, hb, _, hq, _, hq', rfl⟩

/-- The output section settles its rule and its checks; it fails to resolve only a relative output
path holding a NUL character. No section, or a null one, gives the defaults; a mapping is read as
`parseOutput_map_settles` says; anything else fails its first check. -/
lemma parseOutput_settles (value : Option YamlValue) :
    SettledBy (parseOutput d value base) ws (OutputLoads ws d base value)
      (∃ entry, value = some (.map entry) ∧
        (OutputPathUnresolvable base (d.lookup entry "schema_path") ∨
          OutputPathUnresolvable base (d.lookup entry "metadata_path")))
      (outputChecks d base value) := by
  cases hm : mappingOf value with
  | some e =>
    obtain rfl : value = some (.map e) := mappingOf_eq_some_iff.1 hm
    exact parseOutput_map_settles e
  | none =>
    unfold parseOutput
    split
    · refine SettledBy.ok rfl (fun o => ⟨?_, fun h => .inl ⟨.inl rfl, h⟩⟩) rfl
      rintro (⟨-, h⟩ | ⟨entry, h, -⟩)
      · exact h
      · cases h
    · refine SettledBy.ok rfl (fun o => ⟨?_, fun h => .inl ⟨.inr rfl, h⟩⟩) rfl
      rintro (⟨-, h⟩ | ⟨entry, h, -⟩)
      · exact h
      · cases h
    · -- set, not null and not a mapping: the section's first check fails
      rename_i hnone hnull
      have hfirst : firstFailure (outputChecks d base value) =
          some (.invalid ("Configuration section '" ++ "output" ++ "' is required.")) := by
        unfold outputChecks
        split
        · exact absurd rfl hnone
        · exact absurd rfl hnull
        · simp [hm]
      have herr : requireMapping value "output" =
          .error (.invalid ("Configuration section '" ++ "output" ++ "' is required.")) :=
        ((requireMapping_settles value "output" : Settles _ False _ _).error_iff _).2 (by simp [hm])
      refine SettledBy.fails ?_ (fun o h => ?_) hfirst
      · rw [load_run_bind, load_run_check, herr]
      · rcases h with ⟨hv, -⟩ | ⟨entry, hentry, -⟩
        · exact hv.elim hnone hnull
        · simp [hentry, mappingOf] at hm

end Output

/-- The sections of a configuration read from a root mapping's entries settle their rules and
their checks. -/
lemma sections_settles {ws : Workspace.FileTree} {d : YamlDocument} (entries : List (Nat × Nat))
    (path : Path) (hdir : ∀ raw, NamesFile d raw →
      ws.entryAt (configuredPath ws.cwd path.parent raw) ≠ .ok (some .directory)) :
    SettledBy (do
        let services ← parseServices d (d.lookup entries "services") path.parent
        let output ← parseOutput d (d.lookup entries "output") path.parent
        pure ({ path, services, output } : CompositionConfig) : Load CompositionConfig) ws
      (fun c => ∃ services, ServicesLoad ws d path.parent (d.lookup entries "services") services ∧
        ∃ output, OutputLoads ws d path.parent (d.lookup entries "output") output ∧
          c = { path, services, output })
      ((∃ raw, NamesFile d raw ∧ unresolvable path.parent raw = true) ∨
        ∃ entry, d.lookup entries "output" = some (.map entry) ∧
          (OutputPathUnresolvable path.parent (d.lookup entry "schema_path") ∨
            OutputPathUnresolvable path.parent (d.lookup entry "metadata_path")))
      (servicesChecks ws d path.parent (d.lookup entries "services") ++
        (outputChecks d path.parent (d.lookup entries "output") ++ [])) :=
  SettledBy.bind _ _ _ ((parseServices_settles _ hdir).congr (fun _ => Iff.rfl) .inl rfl) fun _ _ =>
    SettledBy.bind _ _ _ ((parseOutput_settles _).congr (fun _ => Iff.rfl) .inr rfl) fun _ _ =>
      SettledBy.pure _

/-! ### Loading a configuration -/

/-- Which configurations load, and with which error the others fail. Take a configuration file
whose text can be read and reads as a YAML document, and suppose that no path the document names
leads to a directory. Loading it succeeds exactly with a configuration that the rules give
(`ConfigurationLoads`): a mapping whose services are a non-empty list of mappings with names that
are strings, not blank and distinct once trimmed, each setting exactly one of `inline` and `path`
to a string, a path leading to a file, and whose output section is absent, null or a mapping of
null or string paths and an absent or boolean `fail_on_errors`; the services keep their order and
trimmed names, inline ones have no source, and paths are resolved against the configuration's
directory. Otherwise loading fails with the error of the first check that does not pass, in the
order loading makes them (`configurationChecks`): the root, then each services entry, then the
output section. That error is a configuration error, unless a relative path loading resolves
holds a NUL character. -/
theorem configuration_loads_iff {ws : Workspace.FileTree} {configPath text : String} {height : Nat}
    {d : YamlDocument} (hread : ws.readText (Path.ofString configPath) = .ok text)
    (hyaml : safeLoad text (height + 1) = .ok d)
    (hdir : ∀ raw, NamesFile d raw →
      ws.entryAt (configuredPath ws.cwd (Path.ofString configPath).parent raw) ≠ .ok (some .directory)) :
    let outcome := ((loadConfiguration configPath height : Load CompositionConfig).run.run ws).1
    (∀ c, outcome = .ok c ↔ ConfigurationLoads ws d (Path.ofString configPath) c) ∧
    (∀ e, outcome = .error e ↔
      firstFailure (configurationChecks ws d (Path.ofString configPath)) = some e) ∧
    ∀ e, outcome = .error e → (∃ m, e = .invalid m) ∨
      (e = .crash nulPathKind nulPathMessage ∧ HoldsNulPath d (Path.ofString configPath).parent) := by
  intro outcome
  suffices h : SettledBy (loadConfiguration configPath height) ws
      (ConfigurationLoads ws d (Path.ofString configPath)) (HoldsNulPath d (Path.ofString configPath).parent)
      (configurationChecks ws d (Path.ofString configPath)) by
    obtain ⟨r, hr, hs⟩ := h
    have : outcome = r := by simp only [outcome, hr]
    rw [this]
    exact ⟨hs.ok_iff, hs.error_iff, hs.error⟩
  have hfile := entryAt_of_readText hread
  unfold loadConfiguration
  simp only [SettledBy, load_run_bind, load_run_pathExists, found, hfile, Bool.not_true,
    Bool.false_eq_true, ↓reduceIte, load_run_readText, hread, load_run_pure, hyaml]
  change SettledBy _ ws _ _ _
  split
  · -- a document with no root has no services
    rename_i hnull
    have hchecks : firstFailure (configurationChecks ws d (Path.ofString configPath)) =
        firstFailure ([] ++ (servicesChecks ws d (Path.ofString configPath).parent (d.lookup [] "services") ++
          (outputChecks d (Path.ofString configPath).parent (d.lookup [] "output") ++ []))) := by
      simp [configurationChecks, rootIsMapping, rootEntries, hnull, mappingOf]
    refine (SettledBy.bind _ _ _ (SettledBy.pure []) fun root hroot =>
      (sections_settles root _ hdir).congr (fun _ => Iff.rfl) ?_ (by rw [hroot])).congr
        (fun c => ?_) id hchecks.symm
    · rintro (h | ⟨entry, he, -⟩)
      · exact .inl h
      · simp [hroot, YamlDocument.lookup] at he
    · constructor
      · rintro ⟨root, rfl, services, ⟨is, his, -⟩, -⟩
        simp [YamlDocument.lookup] at his
      · rintro ⟨-, root, hroot, -⟩
        simp [hnull] at hroot
  · -- a mapping: its sections load
    rename_i entries hmap
    have hchecks : firstFailure (configurationChecks ws d (Path.ofString configPath)) =
        firstFailure ([] ++ (servicesChecks ws d (Path.ofString configPath).parent
          (d.lookup entries "services") ++
          (outputChecks d (Path.ofString configPath).parent (d.lookup entries "output") ++ []))) := by
      simp [configurationChecks, rootIsMapping, rootEntries, hmap, mappingOf]
    refine (SettledBy.bind _ _ _ (SettledBy.pure entries) fun root hroot =>
      (sections_settles root _ hdir).congr (fun _ => Iff.rfl) ?_ (by rw [hroot])).congr
        (fun c => ?_) id hchecks.symm
    · rintro (h | ⟨entry, he, hu⟩)
      · exact .inl h
      · exact .inr ⟨entries, entry, hmap, hroot ▸ he, hu⟩
    · constructor
      · rintro ⟨root, rfl, services, hs, output, ho, rfl⟩
        exact ⟨rfl, root, hmap, hs, ho⟩
      · rintro ⟨hpath, root, hroot, hs, ho⟩
        obtain rfl : root = entries := by simpa [hmap] using hroot.symm
        exact ⟨root, rfl, _, hs, _, ho, by cases c; simp_all⟩
  · -- any other root is refused
    rename_i hnull hmap
    have hroot : rootIsMapping d = false := by
      cases h : d.rootValue <;> simp_all [rootIsMapping]
    exact SettledBy.fails rfl (fun c ⟨_, root, hroot, _⟩ => hmap root hroot)
      (by simp [configurationChecks, hroot])

/-- A configuration of one inline service, in YAML's flow style, whose output schema goes to a
path spelled as a double-quoted YAML string. -/
def sampleConfiguration (schemaPath : String) : String :=
  "\x7b\"services\": [\x7b\"name\": \"a\", \"inline\": \"type Query \x7b a: Int \x7d\"\x7d], " ++
    "\"output\": \x7b\"schema_path\": \"" ++ schemaPath ++ "\"\x7d\x7d"

/-- The document of `sampleConfiguration`, for the path its spelling reads as. -/
def sampleDocument (schemaPath : String) : YamlDocument :=
  ⟨#[.map [(1, 2), (8, 9)], .str "services", .seq [3], .map [(4, 5), (6, 7)], .str "name", .str "a",
    .str "inline", .str "type Query \x7b a: Int \x7d", .str "output", .map [(10, 11)], .str "schema_path",
    .str schemaPath], some 0⟩

/-- A working directory holding `sampleConfiguration` as `composition.yaml`. -/
def sampleWorkspace (schemaPath : String) : Workspace.FileTree :=
  { cwd := ["work"], files := [(["work", "composition.yaml"], sampleConfiguration schemaPath)] }

/-- The services of the sample configuration load as one inline service. -/
lemma sample_services_load (ws : Workspace.FileTree) (schemaPath : String) (base : Path) :
    ServicesLoad ws (sampleDocument schemaPath) base
      ((sampleDocument schemaPath).lookup [(1, 2), (8, 9)] "services")
      [⟨"a", "type Query \x7b a: Int \x7d", none⟩] :=
  ⟨[3], rfl, by simp, .cons ⟨_, rfl, ⟨"a", rfl, by decide, rfl⟩, .inline rfl rfl rfl⟩ .nil, by simp,
    by simp⟩

/-- What the sample configuration loads as, with its output schema at `schema.graphql`. -/
def sampleLoaded : CompositionConfig :=
  { path := Path.ofString "composition.yaml", services := [⟨"a", "type Query \x7b a: Int \x7d", none⟩],
    output := { schemaPath := some ⟨true, ["work", "schema.graphql"], false⟩ } }

theorem sample_configuration_loads :
    ((loadConfiguration "composition.yaml" 64 : Load CompositionConfig).run.run
      (sampleWorkspace "schema.graphql")).1 = .ok sampleLoaded := by
  have hpaths : namedPaths (sampleDocument "schema.graphql") = [] := by decide +kernel
  have hiff := (@configuration_loads_iff (sampleWorkspace "schema.graphql") "composition.yaml"
    (sampleConfiguration "schema.graphql") 64 (sampleDocument "schema.graphql") (by decide +kernel)
    (by decide +kernel)
    fun raw h => by simpa [hpaths] using mem_namedPaths_of_namesFile h).1 sampleLoaded
  refine hiff.2 ⟨rfl, _, rfl, sample_services_load .., .inr ⟨_, rfl, ?_, ?_, .inl ⟨rfl, rfl⟩⟩⟩
  · -- the schema path is resolved against the working directory
    exact ⟨_, .inr ⟨_, rfl, rfl⟩, .inr ⟨"schema.graphql", by decide +kernel, by decide +kernel,
      by decide +kernel⟩⟩
  · exact ⟨_, .inl ⟨.inl rfl, rfl⟩, .inl ⟨rfl, rfl⟩⟩

/-- A relative output path holding a NUL character cannot be resolved. This configuration keeps
every rule on its services and on the form of its output section, a mapping whose schema path is
a string, yet loading it fails with the system's error on such a path, not a configuration
error. -/
theorem nul_output_path_unresolvable :
    let d := sampleDocument "a\x00.graphql"
    let ws := sampleWorkspace "a\\0.graphql"
    safeLoad (sampleConfiguration "a\\0.graphql") (64 + 1) = .ok d ∧
    (∃ root entry services, d.rootValue = .map root ∧
      ServicesLoad ws d (Path.ofString "composition.yaml").parent (d.lookup root "services") services ∧
      d.lookup root "output" = some (.map entry) ∧
      d.lookup entry "schema_path" = some (.str "a\x00.graphql") ∧
      d.lookup entry "metadata_path" = none ∧ d.lookup entry "fail_on_errors" = none) ∧
    ((loadConfiguration "composition.yaml" 64 : Load CompositionConfig).run.run ws).1 =
      .error (.crash nulPathKind nulPathMessage) :=
  ⟨by decide +kernel, ⟨_, _, _, rfl, sample_services_load .., rfl, rfl, rfl, rfl⟩, by decide +kernel⟩

end Federation.Configuration
