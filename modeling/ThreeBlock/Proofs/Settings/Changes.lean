-- Settings that change. Settings are read from a value, and then sources speak one after
-- the other. What two of them say is what one could have said alone, a source that is
-- refused changes nothing, and settings written down are read again as they were.
import ThreeBlock.Proofs.Settings.Precedence
namespace ThreeBlock

/-! ## Texts of code points -/

namespace Value

mutual

/-- Whether the texts in a value are made of code points. -/
def isLegible : Value → Bool
  | .rough ps => ps.all Text.isPoint
  | .list items | .set items | .tuple items => areLegible items
  | .map entries => entriesLegible entries
  | _ => true

/-- Whether the texts in some values are made of code points. -/
def areLegible : List Value → Bool
  | [] => true
  | v :: vs => isLegible v && areLegible vs

/-- Whether the texts in some entries are made of code points. -/
def entriesLegible : List (Value × Value) → Bool
  | [] => true
  | (k, v) :: es => isLegible k && isLegible v && entriesLegible es

end

theorem isLegible_of_lookup? {entries : List (Value × Value)} {key : String} {v : Value}
    (h : entriesLegible entries = true) (hv : lookup? key entries = some v) :
    v.isLegible = true := by
  induction entries with
  | nil => cases hv
  | cons e es ih =>
    obtain ⟨k, w⟩ := e
    simp only [entriesLegible, Bool.and_eq_true] at h
    obtain ⟨⟨_, hw⟩, hes⟩ := h
    unfold lookup? at hv
    split at hv
    · cases hv
    · next heq =>
      obtain ⟨heq, rfl⟩ := List.cons_eq_cons.1 heq
      cases heq
      split at hv
      · cases hv
        exact hw
      · exact ih hes hv
    · next heq =>
      obtain ⟨_, rfl⟩ := List.cons_eq_cons.1 heq
      exact ih hes hv

theorem lowercase_word {v : Value} (h : v.isLegible = true) :
    Text.lowercase v.word = v.word := by
  cases v with
  | rough ps => exact Text.lowercase_shownPoints h
  | _ => exact Text.lowercase_lowercase _

end Value

namespace Yaml

/-- Whether the texts in a part are made of code points. -/
def Part.isLegible : Part → Bool
  | .plain v => v.isLegible
  | .nan _ | .whole _ => true
  | .pair a b => a.isLegible && b.isLegible

/-- Whether the texts in a list, set or map are made of code points. -/
def Whole.isLegible : Whole → Bool
  | .list items | .set items => items.all Part.isLegible
  | .map entries => entries.all fun e => e.1.isLegible && e.2.isLegible

/-- Whether the texts in a document are made of code points. -/
def Content.isLegible (c : Content) : Bool :=
  c.root.isLegible && c.wholes.all Whole.isLegible

theorem Part.isLegible_of_entries? {wholes : Wholes} {p q : Part} {get? : String → Option Part}
    {key : String} (h : wholes.all Whole.isLegible = true)
    (hentries : p.entries? wholes = some get?) (hq : get? key = some q) : q.isLegible = true := by
  unfold Part.entries? at hentries
  split at hentries
  · next id =>
    split at hentries
    · next entries hmap =>
      cases hentries
      obtain ⟨e, he, rfl⟩ := Option.map_eq_some_iff.1 hq
      have hwhole : (wholes.getD id default).isLegible = true := by
        rw [Array.getD_eq_getD_getElem?]
        cases hget : wholes[id]? with
        | none => rfl
        | some w => exact Array.all_eq_true_iff_forall_mem.1 h w (Array.mem_of_getElem? hget)
      rw [hmap, Whole.isLegible, List.all_eq_true] at hwhole
      have hpair := hwhole e (List.mem_of_find?_eq_some he)
      rw [Bool.and_eq_true] at hpair
      exact hpair.2
    · cases hentries
  · cases hentries

/-- What is spelled out is a plain part itself, or a value without a text of its own. -/
theorem Part.eq_plain_or_word {deepest : Nat} {wholes : Wholes} {p : Part} {v : Value}
    (h : p.spell deepest wholes = .ok v) : p = .plain v ∨ v.word = Text.lowercase v.plain := by
  obtain _ | deepest := deepest
  · cases h
  unfold Part.spell Part.spellFrom at h
  cases p with
  | plain w =>
    dsimp only at h
    split at h
    · cases h
      exact .inl rfl
    · cases h
  | nan source =>
    cases h
    exact .inr rfl
  | pair a b =>
    obtain ⟨first, _, h⟩ := bind_eq_ok_iff.1 h
    obtain ⟨second, _, h⟩ := bind_eq_ok_iff.1 h
    cases h
    exact .inr rfl
  | whole id =>
    right
    dsimp only at h
    split at h
    · split at h
      · cases h
        rfl
      · obtain ⟨vs, _, rfl⟩ := map_eq_ok_iff.1 h
        rfl
    · obtain ⟨vs, _, rfl⟩ := map_eq_ok_iff.1 h
      rfl
    · split at h
      · cases h
        rfl
      · obtain ⟨vs, _, rfl⟩ := map_eq_ok_iff.1 h
        rfl

theorem Part.lowercase_word {deepest : Nat} {wholes : Wholes} {p : Part} {v : Value}
    (h : p.isLegible = true) (hv : p.spell deepest wholes = .ok v) :
    Text.lowercase v.word = v.word := by
  rcases Part.eq_plain_or_word hv with rfl | hword
  · exact Value.lowercase_word h
  · rw [hword, Text.lowercase_lowercase]

end Yaml

/-! ## Settled settings -/

namespace Settings

/-- Both words of some settings are in lower case. -/
structure IsSettled (s : Settings) : Prop where
  level : Text.lowercase s.logging.level = s.logging.level
  format : Text.lowercase s.logging.format = s.logging.format

/-- What is legible has only legible entries, and its word is in lower case. -/
structure View.Lowers {α : Type} (look : View α) (legible : α → Prop) : Prop where
  entries : ∀ {p get? key q}, legible p → look.entries? p = some get? → get? key = some q →
    legible q
  word : ∀ {p w}, legible p → look.word p = .ok w → Text.lowercase w = w

section Reading

variable {α : Type} {look : View α} {legible : α → Prop} {get? inner : String → Option α}

theorem legible_of_readLogging (hlook : look.Lowers legible)
    (hget : ∀ key p, get? key = some p → legible p) (h : readLogging look get? = .ok inner)
    (key : String) (q : α) (hq : inner key = some q) : legible q := by
  unfold readLogging at h
  split at h
  · cases h
    cases hq
  · next p hp =>
    split at h
    · cases h
      cases hq
    · split at h
      · next entries hentries =>
        cases h
        exact hlook.entries (hget _ p hp) hentries hq
      · cases h

theorem lowercase_of_readWord (hlook : look.Lowers legible)
    (hget : ∀ key p, get? key = some p → legible p) {key fallback w : String}
    (hfallback : Text.lowercase fallback = fallback)
    (h : readWord look get? key fallback = .ok w) : Text.lowercase w = w := by
  unfold readWord at h
  split at h
  · cases h
    exact hfallback
  · next p hp => exact hlook.word (hget key p hp) (mapError_eq_ok_iff.1 h)

theorem isSettled_of_settings (hlook : look.Lowers legible) {root : α} (hroot : legible root)
    {s : Settings} (h : look.settings root = .ok s) : s.IsSettled := by
  unfold View.settings at h
  split at h
  · cases h
  · next get? hget =>
    obtain ⟨inner, hinner, h⟩ := bind_eq_ok_iff.1 h
    obtain ⟨strict, _, h⟩ := bind_eq_ok_iff.1 h
    obtain ⟨stateMap, _, h⟩ := bind_eq_ok_iff.1 h
    obtain ⟨level, hlevel, h⟩ := bind_eq_ok_iff.1 h
    obtain ⟨format, hformat, h⟩ := bind_eq_ok_iff.1 h
    cases h
    have hlegible := legible_of_readLogging hlook
      (fun key p hp => hlook.entries hroot hget hp) hinner
    exact ⟨lowercase_of_readWord hlook hlegible (by decide +kernel) hlevel,
      lowercase_of_readWord hlook hlegible (by decide +kernel) hformat⟩

end Reading

theorem lowers_valueView : valueView.Lowers fun v => v.isLegible = true where
  entries := by
    intro p get? key q hp hget hq
    cases p with
    | map entries =>
      cases hget
      exact Value.isLegible_of_lookup? hp hq
    | _ => cases hget
  word := by
    intro p w hp hw
    change Value.shownBy Value.word p = .ok w at hw
    unfold Value.shownBy at hw
    split at hw
    · cases hw
      exact Value.lowercase_word hp
    · cases hw

theorem lowers_partView (deepest : Nat) {wholes : Yaml.Wholes}
    (h : wholes.all Yaml.Whole.isLegible = true) : (partView deepest wholes).Lowers fun p => p.isLegible = true where
  entries _ := Yaml.Part.isLegible_of_entries? h
  word := by
    intro p w hp hw
    obtain ⟨v, hv, rfl⟩ := map_eq_ok_iff.1 hw
    exact Yaml.Part.lowercase_word hp hv

theorem isSettled_of_ofContent {deepest : Nat} {c : Yaml.Content} (hc : c.isLegible = true)
    {s : Settings} (h : ofContent deepest c = .ok s) : s.IsSettled := by
  rw [Yaml.Content.isLegible, Bool.and_eq_true] at hc
  unfold ofContent at h
  split at h
  · cases h
    exact ⟨by decide +kernel, by decide +kernel⟩
  · exact isSettled_of_settings (lowers_partView deepest hc.2) hc.1 h

/-- Settled settings that are written down are read as they were. -/
theorem ofValue_toValue {s : Settings} (h : s.IsSettled) : ofValue s.toValue = .ok s := by
  have hread : ofValue s.toValue = .ok ⟨s.strict, s.stateMap,
      Text.lowercase s.logging.level, Text.lowercase s.logging.format⟩ := rfl
  rw [hread, h.level, h.format]

/-! ## Overrides -/

/-- What two sources say when the first of them takes precedence. -/
def Overrides.over (o' o : Overrides) : Overrides where
  strict := o'.strict.or o.strict
  stateMap := o'.stateMap.or o.stateMap
  level := (o'.level.filter (· ≠ "")).or o.level
  format := (o'.format.filter (· ≠ "")).or o.format

/-- An empty word counts as none, also when it is said later. -/
theorem wordOr_or (w' w : Option String) (fallback : String) :
    wordOr ((w'.filter (· ≠ "")).or w) fallback = wordOr w' (wordOr w fallback) := by
  cases w' with
  | none => rfl
  | some w' =>
    by_cases hw : w' = ""
    · simp [hw, wordOr, Option.filter]
    · simp [hw, wordOr, Option.filter]

theorem isSettled_override (s : Settings) (o : Overrides) : (s.override o).IsSettled :=
  ⟨Text.lowercase_lowercase _, Text.lowercase_lowercase _⟩

theorem override_none {s : Settings} (h : s.IsSettled) : s.override {} = s := by
  have hsame : s.override {} = ⟨s.strict, s.stateMap,
      Text.lowercase s.logging.level, Text.lowercase s.logging.format⟩ := rfl
  rw [hsame, h.level, h.format]

theorem override_override (s : Settings) (o o' : Overrides) :
    (s.override o).override o' = s.override (o'.over o) := by
  unfold override Overrides.over
  simp only [wordOr_or, lowercase_wordOr]
  cases o'.strict <;> cases o'.stateMap <;> rfl

/-! ## One change after the other -/

/-- A source that speaks about settings which are there. -/
inductive Change where
  /-- The switches of a command line. -/
  | overrides (o : Overrides)
  /-- The variables of an environment. -/
  | environment (env : Environment)

/-- The settings that a change gives, unless it is refused. -/
def Change.make (s : Settings) : Change → Except SettingsError Settings
  | .overrides o => .ok (s.override o)
  | .environment env => s.withEnvironment env

/-- What a change says; nothing when it is refused. -/
def Change.heard : Change → Overrides
  | .overrides o => o
  | .environment env => (readEnvironment env).toOption.getD {}

/-- The settings in effect after a change: those that it gives, or else those before it. -/
def after (s : Settings) (c : Change) : Settings := (c.make s).toOption.getD s

/-- Settings that can be had: read from a value or a document, and changed. -/
inductive Obtained : Settings → Prop
  | value {v : Value} {s : Settings} : v.isLegible = true → ofValue v = .ok s → Obtained s
  | document {deepest : Nat} {c : Yaml.Content} {s : Settings} : c.isLegible = true →
      ofContent deepest c = .ok s → Obtained s
  | changed {s s' : Settings} (c : Change) : Obtained s → c.make s = .ok s' → Obtained s'

theorem isSettled_make {s s' : Settings} {c : Change} (h : c.make s = .ok s') :
    s'.IsSettled := by
  cases c with
  | overrides o =>
    cases h
    exact isSettled_override s o
  | environment env =>
    obtain ⟨o, _, rfl⟩ := map_eq_ok_iff.1 h
    exact isSettled_override s o

theorem Obtained.isSettled {s : Settings} (h : Obtained s) : s.IsSettled := by
  cases h with
  | value hlegible hread => exact isSettled_of_settings lowers_valueView hlegible hread
  | document hlegible hread => exact isSettled_of_ofContent hlegible hread
  | changed c _ hmake => exact isSettled_make hmake

/-- What a change says stands in place of what was said before. -/
theorem after_eq {s : Settings} (h : s.IsSettled) (c : Change) :
    s.after c = s.override c.heard := by
  cases c with
  | overrides o => rfl
  | environment env =>
    simp only [after, Change.make, Change.heard, withEnvironment]
    cases readEnvironment env with
    | ok o => rfl
    | error e => exact (override_none h).symm

/-- Any number of changes are one: what all those that are not refused say, the later of them
with precedence. -/
theorem foldl_after {s : Settings} (h : s.IsSettled) (cs : List Change) :
    cs.foldl after s = s.override (cs.foldl (fun o c => c.heard.over o) {}) := by
  -- Once a change was made, the settings are those at the start with something said of them.
  have hrun : ∀ o, cs.foldl after (s.override o) =
      s.override (cs.foldl (fun o c => c.heard.over o) o) := by
    induction cs with
    | nil => exact fun o => rfl
    | cons c cs ih =>
      intro o
      rw [List.foldl_cons, List.foldl_cons, after_eq (isSettled_override s o),
        override_override, ih]
  rw [← hrun, override_none h]

/-- Settings that can be had are read again as they were when they are written down, and stay
as they are when nothing is said. What two sources say after each other is what one says
in their place: of each setting the later word, or else the earlier. So it is with any
number of changes, and an environment with a flag that is no word for on or off is refused
and leaves the settings as they were. -/
theorem changes_add_up {s : Settings} (h : Obtained s) :
    ofValue s.toValue = .ok s ∧ s.override {} = s ∧
      (∀ o o', (s.override o).override o' = s.override (o'.over o)) ∧
      (∀ cs : List Change,
        cs.foldl after s = s.override (cs.foldl (fun o c => c.heard.over o) {})) ∧
      ∀ env,
        (s.withEnvironment env).mapError SettingsStop.error =
          unlessAny [flagObjection env "SVFSM_STRICT", flagObjection env "SVFSM_STATE_MAP"]
            (s.override ⟨flag? env "SVFSM_STRICT", flag? env "SVFSM_STATE_MAP",
              env.lookup "SVFSM_LOG_LEVEL", none⟩) ∧
        ∀ e, s.withEnvironment env = .error e → s.after (.environment env) = s := by
  have hsettled := h.isSettled
  refine ⟨ofValue_toValue hsettled, override_none hsettled, override_override s,
    foldl_after hsettled, fun env => ⟨?_, fun e he => ?_⟩⟩
  · rw [withEnvironment, mapError_map, readEnvironment_eq, unlessAny_map]
  · rw [after, Change.make, he]
    rfl

/-- A switch that is set off and an empty word: the one is heard, the other is not. A variable
that is no word for on or off changes nothing. -/
theorem off_is_heard_and_an_empty_word_is_not :
    ∃ s s' : Settings,
      ofValue (.map [(.text "strict", .bool true),
        (.text "logging", .map [(.text "level", .text "WARN"), (.text "format", .null)])]) =
          .ok s ∧
      (Change.environment [("SVFSM_STATE_MAP", " Yes ")]).make s = .ok s' ∧
      s' = ⟨true, true, "warn", "none"⟩ ∧ ofValue s'.toValue = .ok s' ∧
      (s'.override { strict := some true, level := some "ERROR" }).override
          { strict := some false, level := some "" } =
        s'.override { strict := some false, level := some "ERROR" } ∧
      s'.after (.environment [("SVFSM_STRICT", "maybe")]) = s' := by
  have hread : ofValue (.map [(.text "strict", .bool true),
      (.text "logging", .map [(.text "level", .text "WARN"), (.text "format", .null)])]) =
        .ok ⟨true, false, "warn", "none"⟩ := by
    decide +kernel
  have hchange : (Change.environment [("SVFSM_STATE_MAP", " Yes ")]).make
      ⟨true, false, "warn", "none"⟩ = .ok ⟨true, true, "warn", "none"⟩ := by
    decide +kernel
  obtain ⟨htold, _, hover, _, henvironment⟩ :=
    changes_add_up (.changed _ (.value (by decide +kernel) hread) hchange)
  exact ⟨_, _, hread, hchange, rfl, htold, hover _ _,
    (henvironment [("SVFSM_STRICT", "maybe")]).2 (.notFlag "SVFSM_STRICT" "'maybe'")
      (by decide +kernel)⟩

end Settings

end ThreeBlock
