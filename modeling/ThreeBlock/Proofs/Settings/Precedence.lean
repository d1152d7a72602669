-- Which settings are in effect. They are told from a document, an environment and
-- the switches at once: the first objection there is refuses them, and else each of
-- them is what the nearest source says.
import ThreeBlock.CommandLine.Run
import ThreeBlock.Proofs.Rows
import ThreeBlock.Proofs.Text.Lowercase
import ThreeBlock.Proofs.Text.Pieces
namespace ThreeBlock

/-! ## What a document says -/

/-- The truth value that a part is. -/
def Yaml.Part.truth? : Part → Option Bool
  | .plain (.bool b) => some b
  | _ => none

namespace Yaml.Content

/-- A part as a map by its text keys. A void part is an empty map. -/
def asMap? (c : Content) (p : Part) : Option (String → Option Part) :=
  if p.isVoid c.wholes then some fun _ => none else p.entries? c.wholes

/-- What stands at a key of a document. -/
def entry? (c : Content) (key : String) : Option Part :=
  (c.asMap? c.root).bind fun get? => get? key

/-- What stands at a key of the part about logging. -/
def logEntry? (c : Content) (key : String) : Option Part :=
  ((c.entry? "logging").bind c.asMap?).bind fun get? => get? key

/-- A truth value at a key; false when there is none. -/
def switch (c : Content) (key : String) : Bool := ((c.entry? key).bind Part.truth?).getD false

/-- A value about logging as a word. -/
def word (deepest : Nat) (c : Content) (key fallback : String) : String :=
  match c.logEntry? key with
  | none => fallback
  | some p =>
    match p.spell deepest c.wholes with
    | .ok v => v.word
    | .error _ => fallback

/-! ## Objections -/

/-- A document that is no map. -/
def rootObjection (c : Content) : Option SettingsStop :=
  match c.asMap? c.root with
  | some _ => none
  | none => some (.error (.rootKind (c.root.kindName c.wholes)))

/-- A part about logging that is no map. -/
def loggingObjection (c : Content) : Option SettingsStop :=
  (c.entry? "logging").bind fun p =>
    match c.asMap? p with
    | some _ => none
    | none => some (.error (.loggingKind (p.kindName c.wholes)))

/-- A switch that is neither true nor false. The message shows it, unless it cannot
be spelled out; then the run ends. -/
def switchObjection (deepest : Nat) (c : Content) (key : String) : Option SettingsStop :=
  (c.entry? key).bind fun p =>
    match p.truth? with
    | some _ => none
    | none =>
      match p.spell deepest c.wholes with
      | .ok v => some (.error (.notSwitch key v.display))
      | .error a => some (.abort a)

/-- A value about logging that cannot be spelled out. -/
def wordObjection (deepest : Nat) (c : Content) (key : String) : Option SettingsStop :=
  (c.logEntry? key).bind fun p =>
    match p.spell deepest c.wholes with
    | .ok _ => none
    | .error a => some (.abort a)

end Yaml.Content

namespace Settings

/-- A variable that is no word for on or off. -/
def flagObjection (env : Environment) (name : String) : Option SettingsStop :=
  (env.lookup name).bind fun value =>
    if flagWord value ∈ onWords ++ offWords then none
    else some (.error (.notFlag name (Text.quoted value)))

def levelObjection (s : Settings) : Option SettingsStop :=
  if s.logging.level ∈ levels then none else some (.error (.unknownLevel s.logging.level))

def formatObjection (s : Settings) : Option SettingsStop :=
  if s.logging.format ∈ formats then none else some (.error (.unknownFormat s.logging.format))

/-! ## Precedence -/

/-- What a variable says about a switch. -/
def flag? (env : Environment) (name : String) : Option Bool :=
  (env.lookup name).map fun value => decide (flagWord value ∈ onWords)

/-- The first word that is given and not empty, or else another one. -/
def firstWord (ws : List (Option String)) (fallback : String) : String :=
  (ws.findSome? fun w => w.filter (· ≠ "")).getD fallback

/-- The settings by precedence: the switches, then the environment, then the
document. -/
def nearest (deepest : Nat) (c : Yaml.Content) (env : Environment) (o : Overrides) :
    Settings where
  strict := (o.strict.or (flag? env "SVFSM_STRICT")).getD (c.switch "strict")
  stateMap := (o.stateMap.or (flag? env "SVFSM_STATE_MAP")).getD (c.switch "include_state_map")
  logging.level :=
    Text.lowercase
      (firstWord [o.level, env.lookup "SVFSM_LOG_LEVEL"] (c.word deepest "level" "info"))
  logging.format := Text.lowercase (firstWord [o.format] (c.word deepest "format" "json"))

/-- The objections that a document raises by itself. -/
def ownObjections (deepest : Nat) (c : Yaml.Content) : List (Option SettingsStop) :=
  [c.rootObjection, c.loggingObjection, c.switchObjection deepest "strict",
    c.switchObjection deepest "include_state_map", c.wordObjection deepest "level",
    c.wordObjection deepest "format"]

/-- The objections behind those of a document. -/
def laterObjections (deepest : Nat) (c : Yaml.Content) (env : Environment) :
    List (Option SettingsStop) :=
  [flagObjection env "SVFSM_STRICT", flagObjection env "SVFSM_STATE_MAP",
    levelObjection (nearest deepest c env {}), formatObjection (nearest deepest c env {})]

/-- All objections, in the order in which they count. -/
def objections (deepest : Nat) (c : Yaml.Content) (env : Environment) :
    List (Option SettingsStop) :=
  ownObjections deepest c ++ laterObjections deepest c env

/-- A value, unless there is an objection: then the first one. -/
def unlessAny {ε α : Type} (es : List (Option ε)) (a : α) : Except ε α :=
  match es.findSome? id with
  | some e => .error e
  | none => .ok a

/-! ## Documents -/

/-- The document in a file. -/
def documentAt (reader : Yaml.Reader) (fs : FileSystem) (p : Path) :
    Except SettingsStop Yaml.Content :=
  (probe fs p).bind fun there =>
    if there then
      match fs.openPath p with
      | .error e => .error (.error (.unreadable (e.about p.text)))
      | .ok f => documentIn reader f
    else .error (.error (.noFile p.text))

/-- The document that settings come from: the file named, or else the usual file. The
usual file may be missing; then the document is empty. -/
def document (reader : Yaml.Reader) (fs : FileSystem) :
    Option Path → Except SettingsStop Yaml.Content
  | some p => documentAt reader fs p
  | none => (probe fs usualFile).bind fun there =>
      if there then documentAt reader fs usualFile else .ok .null

theorem documentIn_whole {reader : Yaml.Reader} {f : FileSystem.Opened} {pieces : List (List Char)}
    (h : Text.piecesOf f.bytes f.torn = (pieces, none)) :
    documentIn reader f = documentOf (reader pieces false) nofun := by
  unfold documentIn
  rw [h]
  exact congrArg (documentOf _) (funext nofun)

theorem ofFile_eq (m : Means) (fs : FileSystem) (p : Path) :
    ofFile m fs p = (documentAt m.reader fs p).bind (ofContent m.deepest) := by
  unfold ofFile documentAt
  cases probe fs p with
  | error e => rfl
  | ok there =>
    cases there with
    | false => rfl
    | true => cases fs.openPath p <;> rfl

theorem ofFiles_eq (m : Means) (fs : FileSystem) (named : Option Path) :
    ofFiles m fs named = (document m.reader fs named).bind (ofContent m.deepest) := by
  cases named with
  | some p => exact ofFile_eq m fs p
  | none =>
    unfold ofFiles document
    cases probe fs usualFile with
    | error e => rfl
    | ok there =>
      cases there with
      | false => rfl
      | true => exact ofFile_eq m fs usualFile

/-! ## Objections in a row -/

section UnlessAny

variable {ε α β : Type} {a : α} {b : β}

theorem unlessAny_bind {f : α → Except ε β} {es : List (Option ε)} (es' : List (Option ε))
    (h : es.findSome? id = none → f a = unlessAny es' b) :
    (unlessAny es a).bind f = unlessAny (es ++ es') b := by
  unfold unlessAny
  rw [List.findSome?_append]
  cases hes : es.findSome? id with
  | some e => rfl
  | none => exact h hes

theorem unlessAny_map (f : α → β) (es : List (Option ε)) :
    (unlessAny es a).map f = unlessAny es (f a) := by
  unfold unlessAny
  cases es.findSome? id <;> rfl

theorem unlessAny_eq_ok_iff {es : List (Option ε)} {a' : α} :
    unlessAny es a = .ok a' ↔ es.findSome? id = none ∧ a = a' := by
  unfold unlessAny
  cases es.findSome? id <;> simp

end UnlessAny

/-! ## One step after the other -/

section Content

variable (deepest : Nat) {c : Yaml.Content} {get? : String → Option Yaml.Part}

theorem entry?_eq (hroot : c.asMap? c.root = some get?) (key : String) :
    c.entry? key = get? key := by
  rw [Yaml.Content.entry?, hroot]
  rfl

theorem readSwitch_eq (hroot : c.asMap? c.root = some get?) (key : String) :
    readSwitch (partView deepest c.wholes) get? key =
      unlessAny [c.switchObjection deepest key] (c.switch key) := by
  unfold readSwitch Yaml.Content.switchObjection Yaml.Content.switch
  rw [entry?_eq hroot]
  cases get? key with
  | none => rfl
  | some p =>
    have htruth : (partView deepest c.wholes).truth? p = p.truth? := rfl
    dsimp only [Option.bind_some]
    rw [htruth]
    cases p.truth? with
    | some b => rfl
    | none =>
      dsimp only [partView]
      cases p.spell deepest c.wholes <;> rfl

theorem readLogging_eq (hroot : c.asMap? c.root = some get?) :
    readLogging (partView deepest c.wholes) get? = unlessAny [c.loggingObjection] c.logEntry? := by
  have hlog : c.logEntry? = fun key =>
      ((get? "logging").bind c.asMap?).bind fun inner => inner key := by
    funext key
    rw [Yaml.Content.logEntry?, entry?_eq hroot]
  unfold readLogging Yaml.Content.loggingObjection
  rw [entry?_eq hroot, hlog]
  cases get? "logging" with
  | none => rfl
  | some p =>
    unfold Yaml.Content.asMap?
    by_cases hvoid : p.isVoid c.wholes = true
    · simp only [partView, Option.bind_some, hvoid, if_true]
      rfl
    · simp only [partView, Option.bind_some, hvoid]
      cases p.entries? c.wholes <;> rfl

theorem readWord_eq (key fallback : String) :
    readWord (partView deepest c.wholes) c.logEntry? key fallback =
      unlessAny [c.wordObjection deepest key] (c.word deepest key fallback) := by
  unfold readWord Yaml.Content.wordObjection Yaml.Content.word
  cases c.logEntry? key with
  | none => rfl
  | some p =>
    dsimp only [partView, Option.bind_some]
    cases p.spell deepest c.wholes <;> rfl

/-- The settings that a document gives on its own. -/
theorem ofContent_eq (c : Yaml.Content) :
    ofContent deepest c =
      unlessAny (ownObjections deepest c)
        ⟨c.switch "strict", c.switch "include_state_map", c.word deepest "level" "info",
          c.word deepest "format" "json"⟩ := by
  by_cases hvoid : c.root.isVoid c.wholes = true
  · have hroot : c.asMap? c.root = some fun _ => none := if_pos hvoid
    have hentry : ∀ key, c.entry? key = none := entry?_eq hroot
    have hlog : ∀ key, c.logEntry? key = none := by
      intro key
      rw [Yaml.Content.logEntry?, hentry]
      rfl
    rw [ofContent, if_pos hvoid]
    simp [unlessAny, ownObjections, Yaml.Content.rootObjection, Yaml.Content.loggingObjection,
      Yaml.Content.switchObjection, Yaml.Content.wordObjection, Yaml.Content.switch,
      Yaml.Content.word, hroot, hentry, hlog]
  · rw [ofContent, if_neg hvoid]
    have hroot : c.asMap? c.root = c.root.entries? c.wholes := if_neg hvoid
    cases hentries : c.root.entries? c.wholes with
    | none =>
      rw [hentries] at hroot
      unfold View.settings ownObjections Yaml.Content.rootObjection
      dsimp only [partView]
      rw [hroot, hentries]
      rfl
    | some get? =>
      rw [hentries] at hroot
      have hnone : c.rootObjection = none := by rw [Yaml.Content.rootObjection, hroot]
      have hread : (partView deepest c.wholes).entries? c.root = some get? := hentries
      unfold View.settings ownObjections
      rw [hnone, hread]
      dsimp only
      rw [readLogging_eq deepest hroot, readSwitch_eq deepest hroot, readSwitch_eq deepest hroot]
      refine unlessAny_bind [_, _, _, _] fun _ => ?_
      refine unlessAny_bind [_, _, _] fun _ => ?_
      refine unlessAny_bind [_, _] fun _ => ?_
      rw [readWord_eq, readWord_eq]
      refine unlessAny_bind [_] fun _ => ?_
      exact unlessAny_bind [] fun _ => rfl

end Content

/-! ## The environment and the switches -/

theorem readFlag_eq (env : Environment) (name : String) :
    (readFlag env name).mapError SettingsStop.error =
      unlessAny [flagObjection env name] (flag? env name) := by
  unfold readFlag flagObjection flag?
  cases env.lookup name with
  | none => rfl
  | some value =>
    dsimp only [Option.bind_some, Option.map_some]
    by_cases hon : flagWord value ∈ onWords
    · rw [if_pos hon, if_pos (List.mem_append_left _ hon), decide_eq_true hon]
      rfl
    · rw [if_neg hon, decide_eq_false hon]
      by_cases hoff : flagWord value ∈ offWords
      · rw [if_pos hoff, if_pos (List.mem_append_right _ hoff)]
        rfl
      · rw [if_neg hoff, if_neg (by simp [hon, hoff])]
        rfl

theorem mapError_bind {ε ε' α β : Type} (g : ε → ε') (x : Except ε α) (f : α → Except ε β) :
    (x.bind f).mapError g = (x.mapError g).bind fun a => (f a).mapError g := by
  cases x <;> rfl

theorem firstWord_cons (w : Option String) (ws : List (Option String)) (fallback : String) :
    firstWord (w :: ws) fallback = wordOr w (firstWord ws fallback) := by
  unfold firstWord wordOr
  cases w with
  | none => rfl
  | some w =>
    by_cases hw : w = ""
    · simp [hw]
    · simp [hw, Option.filter]

theorem lowercase_wordOr (w : Option String) (fallback : String) :
    Text.lowercase (wordOr w (Text.lowercase fallback)) = Text.lowercase (wordOr w fallback) := by
  unfold wordOr
  cases w with
  | none => exact Text.lowercase_lowercase fallback
  | some w =>
    dsimp only
    split
    · exact Text.lowercase_lowercase fallback
    · rfl

/-- What the switches say stands in place of all that was said before. -/
theorem override_nearest (deepest : Nat) (c : Yaml.Content) (env : Environment) (o : Overrides) :
    (nearest deepest c env {}).override o = nearest deepest c env o := by
  unfold override nearest
  simp only [firstWord_cons, lowercase_wordOr]
  cases o.strict <;> cases o.stateMap <;> rfl

theorem checked_eq (s : Settings) :
    s.checked.mapError SettingsStop.error = unlessAny [levelObjection s, formatObjection s] s := by
  unfold checked levelObjection formatObjection
  by_cases hlevel : s.logging.level ∈ levels
  · by_cases hformat : s.logging.format ∈ formats
    · simp [hlevel, hformat, unlessAny, Except.mapError]
    · simp [hlevel, hformat, unlessAny, Except.mapError]
  · simp [hlevel, unlessAny, Except.mapError]

/-- What an environment says, unless one of its flags is no word for on or off. -/
theorem readEnvironment_eq (env : Environment) :
    (readEnvironment env).mapError SettingsStop.error =
      unlessAny [flagObjection env "SVFSM_STRICT", flagObjection env "SVFSM_STATE_MAP"]
        ⟨flag? env "SVFSM_STRICT", flag? env "SVFSM_STATE_MAP", env.lookup "SVFSM_LOG_LEVEL",
          none⟩ := by
  refine (mapError_bind _ _ _).trans ?_
  rw [readFlag_eq]
  refine unlessAny_bind [_] fun _ => ?_
  refine (mapError_bind _ _ _).trans ?_
  rw [readFlag_eq]
  exact unlessAny_bind [] fun _ => rfl

theorem mapError_map {ε ε' α β : Type} (g : ε → ε') (x : Except ε α) (f : α → β) :
    (x.map f).mapError g = (x.mapError g).map f := by
  cases x <;> rfl

/-- What an environment says stands in place of what was said before, and is checked. -/
theorem settle_eq (env : Environment) (s : Settings) {s' : Settings}
    (hs' : s.override ⟨flag? env "SVFSM_STRICT", flag? env "SVFSM_STATE_MAP",
      env.lookup "SVFSM_LOG_LEVEL", none⟩ = s') :
    settle env s =
      unlessAny [flagObjection env "SVFSM_STRICT", flagObjection env "SVFSM_STATE_MAP",
        levelObjection s', formatObjection s'] s' := by
  rw [settle, mapError_bind, withEnvironment, mapError_map, readEnvironment_eq, unlessAny_map, hs']
  exact unlessAny_bind (f := fun t => (checked t).mapError SettingsStop.error) [_, _]
    fun _ => checked_eq s'

section Load

variable (deepest : Nat) (c : Yaml.Content) (env : Environment)

/-- The settings that a document and an environment give. -/
theorem settle_ofContent :
    (ofContent deepest c).bind (settle env) =
      unlessAny (objections deepest c env) (nearest deepest c env {}) := by
  rw [ofContent_eq]
  refine unlessAny_bind _ fun _ => settle_eq env _ ?_
  unfold override nearest
  simp only [firstWord_cons]
  rfl

/-- The settings that a document, an environment and the switches give. -/
theorem override_settle_ofContent (o : Overrides) :
    ((ofContent deepest c).bind (settle env)).map (fun s => s.override o) =
      unlessAny (objections deepest c env) (nearest deepest c env o) := by
  rw [settle_ofContent, unlessAny_map, override_nearest]

theorem load_eq (m : Means) (fs : FileSystem) (named : Option Path) :
    load m fs env named = (document m.reader fs named).bind fun c =>
      (ofContent m.deepest c).bind (settle env) := by
  have hload : load m fs env named = (ofFiles m fs named).bind (settle env) := rfl
  rw [hload, ofFiles_eq]
  cases document m.reader fs named <;> rfl

end Load

/-- Settings without an objection have words that are known. -/
theorem known_of_no_objection {deepest : Nat} {c : Yaml.Content} {env : Environment}
    (h : (objections deepest c env).findSome? id = none) :
    Text.lowercase (nearest deepest c env {}).logging.level ∈ levels ∧
      Text.lowercase (nearest deepest c env {}).logging.format ∈ formats := by
  have hnone := List.findSome?_eq_none_iff.1 h
  have hlevel : levelObjection (nearest deepest c env {}) ∈ objections deepest c env := by
    simp [objections, laterObjections]
  have hformat : formatObjection (nearest deepest c env {}) ∈ objections deepest c env := by
    simp [objections, laterObjections]
  replace hlevel : levelObjection (nearest deepest c env {}) = none := hnone _ hlevel
  replace hformat : formatObjection (nearest deepest c env {}) = none := hnone _ hformat
  unfold levelObjection at hlevel
  unfold formatObjection at hformat
  constructor
  · by_cases hin : (nearest deepest c env {}).logging.level ∈ levels
    · exact (Text.lowercase_lowercase _).symm ▸ hin
    · rw [if_neg hin] at hlevel
      cases hlevel
  · by_cases hin : (nearest deepest c env {}).logging.format ∈ formats
    · exact (Text.lowercase_lowercase _).symm ▸ hin
    · rw [if_neg hin] at hformat
      cases hformat

end Settings

/-! ## Runs -/

namespace CommandLine

theorem effectiveSettings_eq (s : Surroundings) (o : Options) :
    effectiveSettings s o =
      (Settings.document s.reader s.files o.config).bind fun c =>
        Settings.unlessAny (Settings.objections s.limits.spelling c s.environment)
          (Settings.nearest s.limits.spelling c s.environment o.overrides) := by
  unfold effectiveSettings
  rw [Settings.load_eq, Surroundings.means]
  cases Settings.document s.reader s.files o.config with
  | error e => rfl
  | ok c => exact Settings.override_settle_ofContent _ c _ _

theorem mem_choices_of_ofGiven {s : Switch} {gs : List Given} {w : String}
    (h : (Arguments.value? s gs).bind (choiceOf? s) = some w) : w ∈ s.choices := by
  obtain ⟨value, _, hchoice⟩ := Option.bind_eq_some_iff.1 h
  exact List.mem_of_find?_eq_some hchoice

/-- Every threshold and form that a switch may name is one that settings may name. -/
theorem lowercase_choice_mem :
    (∀ w ∈ Switch.choices .logLevel, Text.lowercase w ∈ Settings.levels) ∧
      ∀ w ∈ Switch.choices .logFormat, Text.lowercase w ∈ Settings.formats := by
  decide +kernel

theorem lowercase_wordOr_mem {words choices : List String} {given : Option String}
    {fallback : String} (hchoices : ∀ w ∈ choices, Text.lowercase w ∈ words)
    (hgiven : ∀ w, given = some w → w ∈ choices)
    (hfallback : Text.lowercase fallback ∈ words) :
    Text.lowercase (Settings.wordOr given fallback) ∈ words := by
  unfold Settings.wordOr
  cases given with
  | none => exact hfallback
  | some w =>
    dsimp only
    split
    · exact hfallback
    · exact hchoices w (hgiven w rfl)

/-- The settings in effect are told from the document, the environment and the switches:
they are refused with the first objection, and else each is what the nearest source says.
So it is with every document, and with that which any reader finds in the files. The words
are always ones that settings may name. -/
theorem settings_follow_one_order (s : Surroundings) (gs : List Given) :
    (∀ deepest c env o,
      ((Settings.ofContent deepest c).bind (Settings.settle env)).map (fun t => t.override o) =
        Settings.unlessAny (Settings.objections deepest c env)
          (Settings.nearest deepest c env o)) ∧
      effectiveSettings s (.ofGiven gs) =
        (Settings.document s.reader s.files (Options.ofGiven gs).config).bind (fun c =>
          Settings.unlessAny (Settings.objections s.limits.spelling c s.environment)
            (Settings.nearest s.limits.spelling c s.environment (Options.ofGiven gs).overrides)) ∧
      ∀ settings, effectiveSettings s (.ofGiven gs) = .ok settings →
        settings.logging.level ∈ Settings.levels ∧ settings.logging.format ∈ Settings.formats := by
  have heffective := effectiveSettings_eq s (.ofGiven gs)
  refine ⟨Settings.override_settle_ofContent, heffective, ?_⟩
  intro settings h
  rw [heffective, bind_eq_ok_iff] at h
  obtain ⟨c, _, h⟩ := h
  obtain ⟨hnone, rfl⟩ := Settings.unlessAny_eq_ok_iff.1 h
  obtain ⟨hlevel, hformat⟩ := Settings.known_of_no_objection hnone
  rw [← Settings.override_nearest]
  exact ⟨lowercase_wordOr_mem lowercase_choice_mem.1 (fun _ => mem_choices_of_ofGiven) hlevel,
    lowercase_wordOr_mem lowercase_choice_mem.2 (fun _ => mem_choices_of_ofGiven) hformat⟩

/-- Settings as a file may hold them. -/
def fewSettings : String := "include_state_map: true\nlogging:\n  level: error\n"

/-- Files with a few settings where settings usually are. -/
def fewFiles : FileSystem :=
  { files := [(⟨.working 0, ["svfsm.yaml"]⟩, Text.utf8Bytes fewSettings)] }

theorem document_fewFiles (reader : Yaml.Reader) :
    Settings.document reader fewFiles none =
      Settings.documentOf (reader [fewSettings.toList] false) nofun := by
  have hthere : Settings.probe fewFiles Settings.usualFile = .ok true := by decide +kernel
  have hopen : fewFiles.openPath Settings.usualFile =
      .ok ⟨Text.utf8Bytes fewSettings, none⟩ := by decide +kernel
  have hdecode : Text.decode (Text.utf8Bytes fewSettings) = .ok fewSettings.toList := by
    decide +kernel
  have hpieces : Text.piecesOf (Text.utf8Bytes fewSettings) (none : Option Errno) =
      ([Text.unifyBreaks fewSettings.toList], none) :=
    Text.piecesOf_text (by decide +kernel) hdecode (by decide) (by decide)
  have hbreaks : Text.unifyBreaks fewSettings.toList = fewSettings.toList := by decide +kernel
  rw [hbreaks] at hpieces
  simp only [Settings.document, Settings.documentAt, hthere, Except.bind, if_true, hopen]
  exact Settings.documentIn_whole hpieces

/-- A file says what no variable and no switch does, and of these the switch is heard. -/
theorem a_file_a_variable_and_a_switch_are_heard :
    effectiveSettings
        { files := fewFiles, environment := [("SVFSM_LOG_LEVEL", "Warn")], tags := [] }
        (.ofGiven [⟨.strict, ""⟩, ⟨.logFormat, "TEXT"⟩]) = .ok ⟨true, true, "warn", "text"⟩ ∧
      "warn" ∈ Settings.levels ∧ "text" ∈ Settings.formats := by
  have h : effectiveSettings
      { files := fewFiles, environment := [("SVFSM_LOG_LEVEL", "Warn")], tags := [] }
      (.ofGiven [⟨.strict, ""⟩, ⟨.logFormat, "TEXT"⟩]) = .ok ⟨true, true, "warn", "text"⟩ := by
    rw [effectiveSettings_eq]
    change (Settings.document (Yaml.reader {}) fewFiles none).bind _ = _
    rw [document_fewFiles]
    decide +kernel
  exact ⟨h, (settings_follow_one_order _ _).2.2 _ h⟩

/-- A number of 4301 digits as a switch: it is refused without a message. -/
theorem a_number_too_long_to_show_ends_the_run :
    Settings.ofContent (Limits.spelling {}) ⟨.whole 0,
        #[.map [(.plain (.text "strict"), .plain (.int (Nat.pow 10 Text.numeralLimit)))]]⟩ =
      .error (.abort .numberTooLong) := by
  decide +kernel

end CommandLine

end ThreeBlock
