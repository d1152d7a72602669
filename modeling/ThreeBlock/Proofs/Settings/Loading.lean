-- How the loading of settings ends. It gives settings or an error that names their part,
-- unless it breaks off: at a path that cannot be looked at, at bytes that are no text,
-- or at a value that cannot be read or spelled out. A run then fails.
import ThreeBlock.Proofs.Files.FileSystem
import ThreeBlock.Proofs.Settings.Precedence
import ThreeBlock.Proofs.Yaml.Reading
namespace ThreeBlock

/-- A stop that names no part of the settings. -/
def SettingsStop.IsBreak (stop : SettingsStop) : Prop := ∀ e, stop ≠ .error e

theorem SettingsStop.not_isBreak_error (e : SettingsError) : ¬ (SettingsStop.error e).IsBreak :=
  fun h => h e rfl

namespace Settings

/-! ## Breaking off -/

/-- The text of a file that was opened, in pieces, and what it breaks off at. -/
abbrev textOf (f : FileSystem.Opened) : List (List Char) × Option (Text.TextBreak Errno) :=
  Text.piecesOf f.bytes f.torn

/-- What breaks off the loading of settings from a path. -/
inductive BreaksOff (m : Means) (fs : FileSystem) (p : Path) : SettingsStop → Prop
  /-- Whether the file is there cannot be told: its path is too long, or may not be
  followed. -/
  | unreachable {e : Errno} : (fs.locate p >>= fs.isThereAt) = .error e → e.isAbsence = false →
      BreaksOff m fs p (.unreachable e p.text)
  /-- The file is no text, and its reading gets to where it is none. -/
  | undecodable {f : FileSystem.Opened} {e : Text.DecodeError} : fs.openPath p = .ok f →
      (∀ cs, Text.decode f.bytes ≠ .ok cs) → (textOf f).2 = some (.undecodable e) →
      m.reader (textOf f).1 true = .torn → BreaksOff m fs p (.undecodable e)
  /-- What the file spells cannot be read. -/
  | aborted {f : FileSystem.Opened} {a : Abort} : fs.openPath p = .ok f →
      m.reader (textOf f).1 (textOf f).2.isSome = .aborted a → BreaksOff m fs p (.abort a)
  /-- The first objection to the document is a value that cannot be spelled out. -/
  | unspelled {f : FileSystem.Opened} {c : Yaml.Content} {q : Yaml.Part} {a : Abort} :
      fs.openPath p = .ok f → m.reader (textOf f).1 (textOf f).2.isSome = .content c →
      (ownObjections m.deepest c).findSome? id = some (.abort a) →
      q.spell m.deepest c.wholes = .error a → BreaksOff m fs p (.abort a)

variable {m : Means} {fs : FileSystem} {p : Path} {stop : SettingsStop}

theorem BreaksOff.isBreak (h : BreaksOff m fs p stop) : stop.IsBreak := by
  intro e
  cases h <;> simp

/-! ## Documents -/

section DocumentIn

variable {reader : Yaml.Reader} {f : FileSystem.Opened}

theorem documentIn_of_content {c : Yaml.Content}
    (h : reader (textOf f).1 (textOf f).2.isSome = .content c) :
    documentIn reader f = .ok c :=
  congrArg (documentOf · _) h

theorem documentIn_of_aborted {a : Abort}
    (h : reader (textOf f).1 (textOf f).2.isSome = .aborted a) :
    documentIn reader f = .error (.abort a) :=
  congrArg (documentOf · _) h

theorem documentIn_of_torn {b : Text.TextBreak Errno} (hbreak : (textOf f).2 = some b)
    (h : reader (textOf f).1 true = .torn) : documentIn reader f = .error (stopAt b) := by
  unfold documentIn
  unfold textOf at h hbreak
  generalize Text.piecesOf f.bytes f.torn = t at h hbreak ⊢
  obtain ⟨pieces, broken⟩ := t
  subst hbreak
  exact congrArg (documentOf · _) h

/-- What comes of a file that was opened. -/
theorem documentIn_cases (reader : Yaml.Reader) (f : FileSystem.Opened) :
    (∃ c, reader (textOf f).1 (textOf f).2.isSome = .content c) ∨
    (∃ a, reader (textOf f).1 (textOf f).2.isSome = .aborted a) ∨
    (∃ e, (textOf f).2 = some (.undecodable e) ∧ reader (textOf f).1 true = .torn) ∨
    ∃ e, documentIn reader f = .error (.error e) := by
  unfold documentIn textOf
  obtain ⟨pieces, broken⟩ := Text.piecesOf f.bytes f.torn
  cases broken with
  | none =>
    dsimp only [Option.isSome]
    cases hread : reader pieces false with
    | content c => exact .inl ⟨c, rfl⟩
    | malformed message => exact .inr (.inr (.inr ⟨_, rfl⟩))
    | aborted a => exact .inr (.inl ⟨a, rfl⟩)
  | some b =>
    dsimp only [Option.isSome]
    cases hread : reader pieces true with
    | content c => exact .inl ⟨c, rfl⟩
    | malformed message => exact .inr (.inr (.inr ⟨_, rfl⟩))
    | aborted a => exact .inr (.inl ⟨a, rfl⟩)
    | torn =>
      cases b with
      | undecodable e => exact .inr (.inr (.inl ⟨e, rfl, rfl⟩))
      | cut e => exact .inr (.inr (.inr ⟨_, rfl⟩))

end DocumentIn

theorem documentAt_of_open {reader : Yaml.Reader} {f : FileSystem.Opened}
    (h : fs.openPath p = .ok f) : documentAt reader fs p = documentIn reader f := by
  have hthere : probe fs p = .ok true := by
    obtain ⟨l, hlocate, hopen⟩ := bind_eq_ok_iff.1 h
    have hfound : (fs.locate p >>= fs.isThereAt) = .ok true := by
      rw [hlocate]
      exact FileSystem.isThereAt_of_openAt hopen
    rw [probe, FileSystem.isThere, hfound]
    rfl
  unfold documentAt
  rw [hthere, h]
  rfl

theorem documentAt_of_unseen {reader : Yaml.Reader} {e : Errno}
    (h : (fs.locate p >>= fs.isThereAt) = .error e) (he : e.isAbsence = false) :
    documentAt reader fs p = .error (.unreachable e p.text) := by
  unfold documentAt probe FileSystem.isThere
  rw [h]
  dsimp only
  rw [he]
  rfl

/-- A path leads to a file that is opened, or breaks off, or has an error of its own. -/
theorem documentAt_cases (reader : Yaml.Reader) (fs : FileSystem) (p : Path) :
    (∃ f, fs.openPath p = .ok f) ∨
    (∃ e, (fs.locate p >>= fs.isThereAt) = .error e ∧ e.isAbsence = false) ∨
      ∃ e, documentAt reader fs p = .error (.error e) := by
  cases hopen : fs.openPath p with
  | ok f => exact .inl ⟨f, rfl⟩
  | error e =>
    right
    unfold documentAt
    rw [hopen]
    unfold probe FileSystem.isThere
    cases hthere : fs.locate p >>= fs.isThereAt with
    | ok there =>
      right
      cases there with
      | true => exact ⟨_, rfl⟩
      | false => exact ⟨_, rfl⟩
    | error w =>
      cases habsent : w.isAbsence with
      | false => exact .inl ⟨w, rfl, habsent⟩
      | true =>
        right
        dsimp only
        rw [habsent]
        exact ⟨_, rfl⟩

/-! ## The ways to break off -/

theorem unlessAny_eq_error_iff {ε α : Type} {es : List (Option ε)} {a : α} {e : ε} :
    unlessAny es a = .error e ↔ es.findSome? id = some e := by
  unfold unlessAny
  cases es.findSome? id <;> simp

theorem exists_of_findSome? {ε : Type} {es : List (Option ε)} {e : ε}
    (h : es.findSome? id = some e) : some e ∈ es := by
  obtain ⟨o, ho, rfl⟩ := List.exists_of_findSome?_eq_some h
  exact ho

/-- A stop at a part of a document that cannot be spelled out. -/
def StopsUnspelled (deepest : Nat) (c : Yaml.Content) (stop : SettingsStop) : Prop :=
  ∃ a, stop = .abort a ∧ ∃ q : Yaml.Part, q.spell deepest c.wholes = .error a

section Objections

variable {deepest : Nat} {c : Yaml.Content} {key : String}

theorem not_isBreak_of_rootObjection (h : c.rootObjection = some stop) : ¬ stop.IsBreak := by
  unfold Yaml.Content.rootObjection at h
  split at h
  · cases h
  · cases h
    exact SettingsStop.not_isBreak_error _

theorem not_isBreak_of_loggingObjection (h : c.loggingObjection = some stop) :
    ¬ stop.IsBreak := by
  obtain ⟨q, -, hq⟩ := Option.bind_eq_some_iff.1 h
  split at hq
  · cases hq
  · cases hq
    exact SettingsStop.not_isBreak_error _

theorem stopsUnspelled_of_switchObjection (h : c.switchObjection deepest key = some stop)
    (hstop : stop.IsBreak) : StopsUnspelled deepest c stop := by
  obtain ⟨q, -, hq⟩ := Option.bind_eq_some_iff.1 h
  split at hq
  · cases hq
  · split at hq
    · cases hq
      exact absurd hstop (SettingsStop.not_isBreak_error _)
    · next a hspell =>
      cases hq
      exact ⟨a, rfl, q, hspell⟩

theorem stopsUnspelled_of_wordObjection (h : c.wordObjection deepest key = some stop) :
    StopsUnspelled deepest c stop := by
  obtain ⟨q, -, hq⟩ := Option.bind_eq_some_iff.1 h
  split at hq
  · cases hq
  · next a hspell =>
    cases hq
    exact ⟨a, rfl, q, hspell⟩

/-- A document that breaks off the loading by itself holds what cannot be spelled out. -/
theorem stopsUnspelled_of_mem (h : some stop ∈ ownObjections deepest c) (hstop : stop.IsBreak) :
    StopsUnspelled deepest c stop := by
  simp only [ownObjections, List.mem_cons, List.not_mem_nil, or_false] at h
  rcases h with h | h | h | h | h | h
  · exact absurd hstop (not_isBreak_of_rootObjection h.symm)
  · exact absurd hstop (not_isBreak_of_loggingObjection h.symm)
  · exact stopsUnspelled_of_switchObjection h.symm hstop
  · exact stopsUnspelled_of_switchObjection h.symm hstop
  · exact stopsUnspelled_of_wordObjection h.symm
  · exact stopsUnspelled_of_wordObjection h.symm

theorem not_isBreak_of_flagObjection {env : Environment} {name : String}
    (h : flagObjection env name = some stop) : ¬ stop.IsBreak := by
  obtain ⟨value, -, hvalue⟩ := Option.bind_eq_some_iff.1 h
  split at hvalue
  · cases hvalue
  · cases hvalue
    exact SettingsStop.not_isBreak_error _

theorem not_isBreak_of_levelObjection {s : Settings} (h : levelObjection s = some stop) :
    ¬ stop.IsBreak := by
  unfold levelObjection at h
  split at h
  · cases h
  · cases h
    exact SettingsStop.not_isBreak_error _

theorem not_isBreak_of_formatObjection {s : Settings} (h : formatObjection s = some stop) :
    ¬ stop.IsBreak := by
  unfold formatObjection at h
  split at h
  · cases h
  · cases h
    exact SettingsStop.not_isBreak_error _

end Objections

/-- The environment and the check of the words never break off. -/
theorem findSome?_objections {deepest : Nat} {c : Yaml.Content} (env : Environment)
    (hstop : stop.IsBreak) :
    (objections deepest c env).findSome? id = some stop ↔
      (ownObjections deepest c).findSome? id = some stop := by
  rw [objections, List.findSome?_append]
  cases (ownObjections deepest c).findSome? id with
  | some e => rfl
  | none =>
    simp only [Option.none_or, reduceCtorEq, iff_false]
    intro h
    have hmem := exists_of_findSome? h
    simp only [laterObjections, List.mem_cons, List.not_mem_nil, or_false] at hmem
    rcases hmem with h | h | h | h
    · exact not_isBreak_of_flagObjection h.symm hstop
    · exact not_isBreak_of_flagObjection h.symm hstop
    · exact not_isBreak_of_levelObjection h.symm hstop
    · exact not_isBreak_of_formatObjection h.symm hstop

/-- Loading that breaks off on the way to a document, or at what it holds. -/
theorem breaksOff_iff {α : Type} (f : Yaml.Content → α) :
    ((documentAt m.reader fs p).bind fun c => unlessAny (ownObjections m.deepest c) (f c)) =
        .error stop ∧ stop.IsBreak ↔ BreaksOff m fs p stop := by
  constructor
  · rintro ⟨h, hstop⟩
    obtain ⟨o, hopen⟩ | ⟨e, hunseen, he⟩ | ⟨e, herror⟩ := documentAt_cases m.reader fs p
    · rw [documentAt_of_open hopen] at h
      obtain ⟨c, hc⟩ | ⟨a, ha⟩ | ⟨e, hbreak, htorn⟩ | ⟨e, herror⟩ := documentIn_cases m.reader o
      · rw [documentIn_of_content hc] at h
        have hfirst := unlessAny_eq_error_iff.1 h
        obtain ⟨a, rfl, q, hspell⟩ := stopsUnspelled_of_mem (exists_of_findSome? hfirst) hstop
        exact .unspelled hopen hc hfirst hspell
      · rw [documentIn_of_aborted ha] at h
        cases h
        exact .aborted hopen ha
      · rw [documentIn_of_torn hbreak htorn] at h
        cases h
        exact .undecodable hopen (Text.decode_ne_of_break hbreak) hbreak htorn
      · rw [herror] at h
        cases h
        exact absurd hstop (SettingsStop.not_isBreak_error e)
    · rw [documentAt_of_unseen hunseen he] at h
      cases h
      exact .unreachable hunseen he
    · rw [herror] at h
      cases h
      exact absurd hstop (SettingsStop.not_isBreak_error e)
  · intro h
    refine ⟨?_, h.isBreak⟩
    cases h with
    | unreachable hunseen he =>
      rw [documentAt_of_unseen hunseen he]
      rfl
    | undecodable hopen _ hbreak htorn =>
      rw [documentAt_of_open hopen, documentIn_of_torn hbreak htorn]
      rfl
    | aborted hopen ha =>
      rw [documentAt_of_open hopen, documentIn_of_aborted ha]
      rfl
    | unspelled hopen hc hfirst _ =>
      rw [documentAt_of_open hopen, documentIn_of_content hc]
      exact unlessAny_eq_error_iff.2 hfirst

theorem ofFile_breaksOff_iff :
    ofFile m fs p = .error stop ∧ stop.IsBreak ↔ BreaksOff m fs p stop := by
  have hcontent : ofContent m.deepest = fun c => unlessAny (ownObjections m.deepest c)
      ⟨c.switch "strict", c.switch "include_state_map", c.word m.deepest "level" "info",
        c.word m.deepest "format" "json"⟩ := by
    funext c
    exact ofContent_eq m.deepest c
  rw [ofFile_eq, hcontent, breaksOff_iff]

/-- Where the usual file is missing nothing breaks off. -/
theorem document_eq (reader : Yaml.Reader) (fs : FileSystem) (named : Option Path) :
    document reader fs named = documentAt reader fs (named.getD usualFile) ∨
      document reader fs named = .ok .null ∧
        documentAt reader fs (named.getD usualFile) =
          .error (.error (.noFile usualFile.text)) := by
  cases named with
  | some p => exact .inl rfl
  | none =>
    unfold document documentAt
    dsimp only [Option.getD_none]
    cases probe fs usualFile with
    | error e => exact .inl rfl
    | ok there =>
      cases there with
      | false => exact .inr ⟨rfl, rfl⟩
      | true => exact .inl rfl

theorem load_breaksOff_iff {env : Environment} {named : Option Path} :
    load m fs env named = .error stop ∧ stop.IsBreak ↔
      BreaksOff m fs (named.getD usualFile) stop := by
  have hload : load m fs env named = (document m.reader fs named).bind fun c =>
      unlessAny (objections m.deepest c env) (nearest m.deepest c env {}) := by
    rw [load_eq]
    exact congrArg _ (funext fun c => settle_ofContent m.deepest c env)
  rw [hload, ← breaksOff_iff fun c => nearest m.deepest c env {}]
  apply and_congr_left
  intro hstop
  obtain hdocument | ⟨hdocument, hmissing⟩ := document_eq m.reader fs named
  · rw [hdocument]
    cases documentAt m.reader fs (named.getD usualFile) with
    | error e => rfl
    | ok c =>
      dsimp only [Except.bind]
      rw [unlessAny_eq_error_iff, unlessAny_eq_error_iff, findSome?_objections env hstop]
  · have hnull : (ownObjections m.deepest .null).findSome? id = none := rfl
    rw [hdocument, hmissing]
    dsimp only [Except.bind]
    rw [unlessAny_eq_error_iff, findSome?_objections env hstop, hnull]
    constructor
    · intro h
      cases h
    · intro h
      cases h
      exact absurd hstop (SettingsStop.not_isBreak_error _)

/-- A short file that is no text breaks off every loading from it by a reader that
looks at a file before it says anything. -/
theorem breaksOff_of_no_text {bytes : Text.Bytes} (hfirst : m.reader [] true = .torn)
    (hopen : fs.openPath p = .ok ⟨bytes, none⟩) (hlength : bytes.length ≤ Text.pieceLength)
    (h : ∀ cs, Text.decode bytes ≠ .ok cs) : ∃ e, BreaksOff m fs p (.undecodable e) := by
  obtain ⟨e, hpieces⟩ := Text.piecesOf_no_text (ε := Errno) hlength h
  refine ⟨e, .undecodable hopen h (congrArg Prod.snd hpieces) ?_⟩
  have hnone : (textOf ⟨bytes, none⟩).1 = [] := congrArg Prod.fst hpieces
  rw [hnone]
  exact hfirst

end Settings

/-! ## Runs -/

namespace CommandLine

/-- How a run ends that got no settings: it tells the error of the settings, or fails. -/
inductive EndsUnset (s : Surroundings) : SettingsStop → Ended → Prop
  | refused {e : SettingsError} {r : Ended} : r.exitCode = 30 → r.stdout = "" →
      r.stderr = errorLine e.text → r.files = s.files → EndsUnset s (.error e) r
  | failed {stop : SettingsStop} {r : Ended} : stop.IsBreak → r.exitCode = 1 → r.stdout = "" →
      r.stderr = "" → r.files = s.files → EndsUnset s stop r

theorem run_eq (s : Surroundings) (args : List String) :
    run s args = { ((runLogged s args).run s.log).1 with log := ((runLogged s args).run s.log).2 } :=
  rfl

theorem endsUnset_of_stop {s : Surroundings} {args : List String} {i : Invocation}
    {stop : SettingsStop} (hargs : Invocation.read s.files args = .ok i)
    (h : Settings.load s.means s.files s.environment i.options.config = .error stop) :
    EndsUnset s stop (run s args) := by
  have hstop : effectiveSettings s i.options = .error stop := by
    rw [effectiveSettings, h]
    rfl
  have hrun : runLogged s args = noSettings s stop := by
    rw [runLogged, hargs]
    dsimp only
    rw [hstop]
  rw [run_eq, hrun]
  cases stop with
  | error e => exact .refused rfl rfl rfl rfl
  | _ => exact .failed (fun _ h => by cases h) rfl rfl rfl rfl

/-! ## Names that are refused -/

/-- A name of a file that is refused at once: a directory, or a file that is denied. -/
def IsRefused (fs : FileSystem) (value : String) : Prop :=
  ∃ l, fs.locateSpelled value = .ok l ∧
    (fs.isDirectory l = true ∨ fs.bar? l = some (.shut .denied))

section Refused

variable {fs : FileSystem} {gs : List Given}

theorem misuse_of_badFile? {switch : Switch} {value : String} {e : Ending}
    (h : badFile? fs switch value = some e)
    (hvalue : fs.locateSpelled value ≠ .error .nulInside) : ∃ m, e = .misuse none m := by
  unfold badFile? at h
  split at h
  · split at h
    · cases h
      exact ⟨_, rfl⟩
    · split at h
      · cases h
        exact ⟨_, rfl⟩
      · cases h
  · next hnul => exact absurd hnul hvalue
  · cases h

theorem badFile?_of_isRefused {value : String} (h : IsRefused fs value) (switch : Switch) :
    (badFile? fs switch value).isSome = true := by
  obtain ⟨l, hlocate, hl⟩ := h
  unfold badFile?
  rw [hlocate]
  dsimp only
  by_cases hdirectory : fs.isDirectory l = true
  · rw [if_pos hdirectory, Option.isSome_some]
  · rw [if_neg hdirectory, if_pos (hl.resolve_left hdirectory), Option.isSome_some]

/-- Whatever is the first bad value, it is misuse. -/
theorem misuse_of_firstBadValue? {e : Ending} (h : firstBadValue? fs gs = some e)
    (hnamed : ∀ switch ∈ [Switch.config, Switch.output], ∀ value,
      Arguments.value? switch gs = some value → fs.locateSpelled value ≠ .error .nulInside) :
    ∃ m, e = .misuse none m := by
  obtain ⟨g, -, hbad⟩ := List.exists_of_findSome?_eq_some h
  obtain ⟨value, hvalue, hbad⟩ := Option.bind_eq_some_iff.1 hbad
  cases hswitch : g.switch with
  | config =>
    rw [hswitch] at hbad hvalue
    exact misuse_of_badFile? hbad (hnamed _ (by simp) _ hvalue)
  | output =>
    rw [hswitch] at hbad hvalue
    exact misuse_of_badFile? hbad (hnamed _ (by simp) _ hvalue)
  | logLevel | logFormat =>
    rw [hswitch] at hbad
    unfold badValue? at hbad
    dsimp only at hbad
    split at hbad
    · cases hbad
      exact ⟨_, rfl⟩
    · cases hbad
  | _ =>
    rw [hswitch] at hbad
    cases hbad

theorem exists_firstBadValue? {value : String} (hvalue : Arguments.value? .config gs = some value)
    (hrefused : IsRefused fs value) : ∃ e, firstBadValue? fs gs = some e := by
  obtain ⟨g, hg, hgiven⟩ := List.exists_of_findSome?_eq_some hvalue
  have hswitch : g.switch = .config := by
    by_contra hne
    rw [if_neg hne] at hgiven
    cases hgiven
  apply Option.isSome_iff_exists.1
  rw [firstBadValue?, List.findSome?_isSome_iff]
  refine ⟨g, List.mem_reverse.1 hg, ?_⟩
  rw [hswitch, hvalue]
  exact badFile?_of_isRefused hrefused .config

end Refused

/-- A directory or a denied file as the source of settings is misuse, and nothing is loaded. -/
theorem run_of_isRefused {s : Surroundings} {args : List String} {a : Arguments} {value : String}
    (hread : Arguments.read Switch.ofProgram false args = .ok a)
    (hasked : asked? none a.given = none)
    (hvalue : Arguments.value? .config a.given = some value)
    (hrefused : IsRefused s.files value)
    (houtput : ∀ o, Arguments.value? .output a.given = some o →
      s.files.locateSpelled o ≠ .error .nulInside) :
    (run s args).exitCode = 2 ∧ (run s args).stdout = "" ∧ (run s args).files = s.files := by
  obtain ⟨e, hbad⟩ := exists_firstBadValue? hvalue hrefused
  have hnamed : ∀ switch ∈ [Switch.config, Switch.output], ∀ v,
      Arguments.value? switch a.given = some v → s.files.locateSpelled v ≠ .error .nulInside := by
    intro switch hswitch v hv
    rcases List.mem_pair.1 hswitch with rfl | rfl
    · obtain ⟨l, hlocate, -⟩ := hrefused
      cases hvalue.symm.trans hv
      rw [hlocate]
      exact nofun
    · exact houtput v hv
  obtain ⟨m, rfl⟩ := misuse_of_firstBadValue? hbad hnamed
  have hoptions : Options.read s.files args = .error (.misuse none m) := by
    unfold Options.read
    rw [hread]
    dsimp only
    rw [hasked, hbad]
  have hrun : runLogged s args = Ending.ended s (.misuse none m) := by
    unfold runLogged Invocation.read
    rw [hoptions]
  rw [run_eq, hrun]
  exact ⟨rfl, rfl, rfl⟩

/-! ## The loading as a whole -/

/-- Loading gives settings or an error that names their part, unless it breaks off, which
it does exactly at a path that cannot be looked at, at bytes that are no text, and at what
cannot be read or spelled out. So it is with any reader, and a short file that is no text
always breaks it off when the reader looks at the file first. A run without settings leaves
the files alone, and its exit code tells the two apart; but it never gets to load a
directory or a file that is denied to it. -/
theorem loading_breaks_off (s : Surroundings) :
    (∀ p stop, Settings.ofFile s.means s.files p = .error stop ∧ stop.IsBreak ↔
      Settings.BreaksOff s.means s.files p stop) ∧
    (∀ named stop, Settings.load s.means s.files s.environment named = .error stop ∧
      stop.IsBreak ↔ Settings.BreaksOff s.means s.files (named.getD Settings.usualFile) stop) ∧
    (s.reader [] true = .torn → ∀ p bytes, s.files.openPath p = .ok ⟨bytes, none⟩ →
      bytes.length ≤ Text.pieceLength → (∀ cs, Text.decode bytes ≠ .ok cs) →
      ∃ e, Settings.BreaksOff s.means s.files p (.undecodable e)) ∧
    (∀ args i stop, Invocation.read s.files args = .ok i →
      Settings.load s.means s.files s.environment i.options.config = .error stop →
      EndsUnset s stop (run s args)) ∧
    ∀ args a value, Arguments.read Switch.ofProgram false args = .ok a →
      asked? none a.given = none → Arguments.value? .config a.given = some value →
      IsRefused s.files value →
      (∀ o, Arguments.value? .output a.given = some o →
        s.files.locateSpelled o ≠ .error .nulInside) →
      (run s args).exitCode = 2 ∧ (run s args).stdout = "" ∧ (run s args).files = s.files := by
  refine ⟨?_, ?_, ?_, ?_, ?_⟩
  · intro p stop
    exact Settings.ofFile_breaksOff_iff
  · intro named stop
    exact Settings.load_breaksOff_iff
  · intro hfirst p bytes hopen hlength h
    exact Settings.breaksOff_of_no_text hfirst hopen hlength h
  · intro args i stop hargs h
    exact endsUnset_of_stop hargs h
  · intro args a value hread hasked hvalue hrefused houtput
    exact run_of_isRefused hread hasked hvalue hrefused houtput

/-- Files with one byte that is no text where settings usually are, and another file that
may not be looked at. -/
def brokenFiles : FileSystem where
  files := [(⟨.working 0, ["svfsm.yaml"]⟩, [0xFF]), (⟨.working 0, ["own.yaml"]⟩, [])]
  bars := [(⟨.working 0, ["own.yaml"]⟩, .unseen .denied)]

theorem openPath_brokenFiles : brokenFiles.openPath Settings.usualFile = .ok ⟨[0xFF], none⟩ := by
  decide +kernel

theorem decode_stray_byte (cs : List Char) : Text.decode [0xFF] ≠ .ok cs := by
  intro h
  rw [Text.decode_eq_ok_iff, Text.decoded?_of_bad rfl rfl] at h
  cases h

/-- The byte fails a run, and so does the file that may not be looked at. A file that is
missing is told of, and a directory is misuse. -/
theorem a_stray_byte_fails_the_run :
    (run { files := brokenFiles, tags := [] } ["config"]).exitCode = 1 ∧
      (run { files := brokenFiles, tags := [] } ["--config", "own.yaml", "config"]).exitCode = 1 ∧
      (run { files := brokenFiles, tags := [] } ["--config", "no.yaml", "config"]).exitCode = 30 ∧
      (run { files := brokenFiles, tags := [] } ["--config", ".", "config"]).exitCode = 2 := by
  obtain ⟨-, hload, hshort, hrun, hrefused⟩ :=
    loading_breaks_off { files := brokenFiles, tags := [] }
  refine ⟨?_, ?_, ?_, ?_⟩
  · have hargs : Invocation.read brokenFiles ["config"] = .ok ⟨{}, .config, []⟩ := by
      decide +kernel
    obtain ⟨e, he⟩ := hshort (Yaml.reader_of_break {} [] Nat.two_pos) _ _ openPath_brokenFiles
      (by decide) decode_stray_byte
    have hends := hrun _ _ _ hargs ((hload none _).2 he).1
    cases hends with
    | failed _ hcode => exact hcode
  · have hargs : Invocation.read brokenFiles ["--config", "own.yaml", "config"] =
        .ok ⟨{ config := some (Path.ofString "own.yaml") }, .config, []⟩ := by
      decide +kernel
    have hunseen : (brokenFiles.locate (Path.ofString "own.yaml") >>= brokenFiles.isThereAt) =
        .error .denied := by
      decide +kernel
    have hends := hrun _ _ _ hargs
      ((hload (some (Path.ofString "own.yaml")) _).2 (.unreachable hunseen rfl)).1
    cases hends with
    | failed _ hcode => exact hcode
  · have hargs : Invocation.read brokenFiles ["--config", "no.yaml", "config"] =
        .ok ⟨{ config := some (Path.ofString "no.yaml") }, .config, []⟩ := by
      decide +kernel
    have hmissing : Settings.load (Surroundings.means { files := brokenFiles, tags := [] })
        brokenFiles [] (some (Path.ofString "no.yaml")) = .error (.error (.noFile "no.yaml")) := by
      decide +kernel
    have hends := hrun _ _ _ hargs hmissing
    cases hends with
    | refused hcode => exact hcode
    | failed hbreak => exact absurd hbreak (SettingsStop.not_isBreak_error _)
  · have hread : Arguments.read Switch.ofProgram false ["--config", ".", "config"] =
        .ok ⟨[⟨.config, "."⟩], ["config"]⟩ := by
      decide +kernel
    exact (hrefused _ _ "." hread rfl rfl ⟨{}, by decide +kernel, .inl rfl⟩ nofun).1

/-- One byte that is no text breaks off the loading of the usual settings. -/
theorem a_stray_byte_breaks_off_the_loading :
    ∃ e, Settings.load ⟨Yaml.reader {}, Limits.spelling {}⟩ brokenFiles [] none =
      .error (.undecodable e) := by
  obtain ⟨e, he⟩ := Settings.breaksOff_of_no_text (m := ⟨Yaml.reader {}, Limits.spelling {}⟩)
    (Yaml.reader_of_break {} [] Nat.two_pos) openPath_brokenFiles (by decide) decode_stray_byte
  exact ⟨e, (Settings.load_breaksOff_iff.2 he).1⟩

end CommandLine

end ThreeBlock
