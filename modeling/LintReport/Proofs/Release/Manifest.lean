import Mathlib.Data.List.Basic
import LintReport.Release.Manifest
import LintReport.Proofs.Json.Skipped

/-!
# Which documents are manifests

An object is a manifest when exactly one of its members has one of the names of the version and the
value of that member is a string (`Manifest.candidates`). All other members are passed over, so they
do not matter, whatever their values are. The reader goes through the members with what it knows of
the version so far (`Manifest.learn`), and what it has learned in the end tells whether there was one
candidate (`Manifest.foldlM_learn`). Of the other documents, a list of a single string is a manifest
(`Manifest.accepts_one_version`).
-/

namespace LintReport

open Json

namespace Manifest

/-- The members that may name the version. -/
def candidates (members : List (String × Written)) : List (String × Written) :=
  members.filter fun member => member.1 ∈ ["version", "latest", "max_version"]

/-- What is known of the version after a member, or nothing when the member cannot be read. -/
def learn (known : Option String) (member : String × Written) : Option (Option String) :=
  if member.1 ∈ versionKeys then
    match known with
    | some _ => none
    | none => member.2.text?.map some
  else some known

/-- The string that is the only item of a list. -/
def sole? : List Written → Option String
  | [v] => v.text?
  | _ => none

section Members

variable {text rest : List Char}

/-- Blanks in front of a string make no difference. -/
theorem readString_congr {text other : List Char} (same : skipBlanks text = skipBlanks other)
    (expected : String) : readString expected text = readString expected other := by
  unfold readString
  rw [same]

/-- Where a string is asked for, a value is read if it is one. -/
theorem readString_of_spells {v : Written} (spelled : Spells (.element v) text rest)
    (expected : String) : ∃ left, Blanks left rest ∧ left.length ≤ text.length ∧
      (readString expected text).toOption = v.text?.map (·, left) := by
  cases spelled with
  | @element _ start stop _ _ before value after =>
      have shorter := Nat.le_trans (Nat.le_of_lt value.length_lt) before.length_le
      refine ⟨stop, after, shorter, ?_⟩
      obtain ⟨c, more, rfl, opens⟩ := value.opens
      have begins : skipBlanks text = c :: more := by
        rw [before.skipBlanks_eq, skipBlanks_cons more opens.visible.1]
      by_cases quote : c = '"'
      · subst quote
        cases value with
        | string letters =>
            simp only [readString, begins, letters.read]
            rfl
        | number stands =>
            obtain ⟨_, _, same, opens⟩ := stands.opens
            cases same
            exact absurd opens (by decide)
      · have noText : v.text? = none := by
          cases v with
          | string s => exact absurd opens quote
          | null | boolean | number | list | object => rfl
        have refused : readString expected text = .error (mismatch expected (c :: more)) := by
          unfold readString
          rw [begins]
          split
          · next impossible => cases impossible
          · next same =>
              cases same
              exact absurd rfl quote
          · rfl
        rw [refused, noText]
        rfl

/-- After the opening quote of a member, the reader learns what the member says. -/
theorem readMember_of_spells {m : String × Written} (spelled : Spells (.member m) text rest)
    (ends : Numeral.Ends rest) : ∃ start, skipBlanks text = '"' :: start ∧
      ∀ known, ∃ left, Blanks left rest ∧ left.length ≤ text.length ∧
        (readMember known start).toOption = (learn known m).map (·, left) := by
  cases spelled with
  | @member _ start chars stop behind _ v before key colon value =>
      have opening := before.length_le
      have named := key.length_lt
      have divided := colon.length_le
      simp only [List.length_cons] at opening divided
      refine ⟨start, ?_, fun known => ?_⟩
      · rw [before.skipBlanks_eq, skipBlanks_cons _ rfl]
      · unfold readMember learn
        simp only [key.read, Steps.ok_bind, readColon_of_blanks colon]
        by_cases names : String.ofList chars ∈ versionKeys
        · simp only [names, ↓reduceIte]
          cases known with
          | some found => exact ⟨rest, .none, by have := value.length_lt; omega, rfl⟩
          | none =>
              obtain ⟨left, blanks, shorter, reads⟩ := readString_of_spells value "a string"
              refine ⟨left, blanks, by omega, ?_⟩
              simp only [Option.isSome_none, Bool.false_eq_true, ↓reduceIte, Steps.toOption_bind,
                reads]
              cases v.text? <;> rfl
        · obtain ⟨left, skips, shorter, blanks⟩ := skipValue_of_spells value ends
          refine ⟨left, blanks, by omega, ?_⟩
          simp only [names, ↓reduceIte, skips, Steps.ok_bind]
          rfl

/-- The closing brace ends the members with what is known. -/
theorem readMembers_close {left : List Char} (blanks : Blanks left ('}' :: rest))
    (known : Option String) (steps : Nat) :
    readMembers (steps + 1) known left = finish known rest := by
  rw [readMembers, blanks.skipBlanks_eq, skipBlanks_cons _ rfl]
  rfl

/-- Behind a comma the next member is read, and then the others. -/
theorem readMembers_comma {left start : List Char} (blanks : Blanks left (',' :: text))
    (begins : skipBlanks text = '"' :: start) (known : Option String) (steps : Nat) :
    readMembers (steps + 1) known left = (do
      let (known, rest) ← readMember known start
      readMembers steps known rest) := by
  rw [readMembers, blanks.skipBlanks_eq, skipBlanks_cons _ rfl]
  simp only [begins]

/-- Learning from a member and going on is learning from both. -/
theorem learn_bind {m : String × Written} {ms : List (String × Written)} {known : Option String}
    {left : List Char} {step : Except Fault (Option String × List Char)}
    (onwards : Option String → List Char → Except Fault (String × List Char))
    (reads : step.toOption = (learn known m).map (·, left))
    (others : ∀ next, (onwards next left).toOption = (ms.foldlM learn next).join.map (·, rest)) :
    (do let (known, left) ← step; onwards known left).toOption =
      ((m :: ms).foldlM learn known).join.map (·, rest) := by
  rw [Steps.toOption_bind, reads, List.foldlM_cons]
  cases learn known m with
  | none => rfl
  | some next => exact others next

/-- Going through the members of an object, the reader learns what they say. -/
theorem readMembers_of_spells {ms : List (String × Written)} :
    ∀ {text : List Char} {m : String × Written},
      Spells (.members (m :: ms)) text ('}' :: rest) →
      ∃ start, skipBlanks text = '"' :: start ∧ ∀ known, ∃ left, left.length ≤ text.length ∧
        (readMember known start).toOption = (learn known m).map (·, left) ∧
        ∀ steps next, left.length < steps →
          (readMembers steps next left).toOption = (ms.foldlM learn next).join.map (·, rest) := by
  induction ms with
  | nil =>
      intro text m spelled
      cases spelled with
      | lastMember member =>
          obtain ⟨start, begins, reads⟩ :=
            readMember_of_spells member (Numeral.ends_cons _ (by decide))
          refine ⟨start, begins, fun known => ?_⟩
          obtain ⟨left, blanks, shorter, learns⟩ := reads known
          refine ⟨left, shorter, learns, fun steps next within => ?_⟩
          obtain ⟨fewer, rfl⟩ := Nat.exists_eq_add_one_of_ne_zero (Nat.ne_zero_of_lt within)
          rw [readMembers_close blanks]
          cases next <;> rfl
      | nextMember _ others => cases others
  | cons second ms ih =>
      intro text m spelled
      cases spelled with
      | nextMember member others =>
          obtain ⟨start, begins, reads⟩ :=
            readMember_of_spells member (Numeral.ends_cons _ (by decide))
          obtain ⟨behind, begins', readsOthers⟩ := ih others
          refine ⟨start, begins, fun known => ?_⟩
          obtain ⟨left, blanks, shorter, learns⟩ := reads known
          refine ⟨left, shorter, learns, fun steps next within => ?_⟩
          obtain ⟨fewer, rfl⟩ := Nat.exists_eq_add_one_of_ne_zero (Nat.ne_zero_of_lt within)
          obtain ⟨stop, shorter', learns', onwards⟩ := readsOthers next
          have comma := blanks.length_le
          simp only [List.length_cons] at comma
          rw [readMembers_comma blanks begins']
          exact learn_bind (readMembers fewer) learns' fun known => onwards fewer known (by omega)

/-- Of an object one learns the version from its members, one after the other. -/
theorem readObject_of_spells {ms : List (String × Written)}
    (spelled : Spells (.value (.object ms)) ('{' :: text) rest) :
    (readObject text).toOption = (ms.foldlM learn none).join.map (·, rest) := by
  cases spelled with
  | emptyObject blanks =>
      rw [readObject, blanks.skipBlanks_eq, skipBlanks_cons _ rfl]
      rfl
  | object members =>
      cases ms with
      | nil => cases members
      | cons m ms =>
          obtain ⟨start, begins, reads⟩ := readMembers_of_spells members
          obtain ⟨left, _, learns, onwards⟩ := reads none
          rw [readObject, begins]
          exact learn_bind (fun known rest => readMembers (rest.length + 1) known rest) learns
            fun known => onwards _ known (Nat.lt_succ_self _)

/-- Of the lists, those of a single string are read. -/
theorem readList_of_spells {vs : List Written}
    (spelled : Spells (.value (.list vs)) ('[' :: text) rest) :
    (readList text).toOption = (sole? vs).map (·, rest) := by
  cases spelled with
  | emptyList blanks =>
      rw [readList, blanks.skipBlanks_eq, skipBlanks_cons _ rfl]
      rfl
  | list items =>
      obtain ⟨c, more, begins, visible, noEnd⟩ := items.items_open
      have same : readString "a string" (c :: more) = readString "a string" text :=
        readString_congr ((skipBlanks_cons more visible).trans begins.symm) _
      rw [readList, begins]
      split
      · next impossible => cases impossible
      · next impossible =>
          cases impossible
          exact absurd rfl noEnd
      · rw [same, Steps.toOption_bind]
        cases items with
        | @lastItem _ _ v item =>
            obtain ⟨left, blanks, _, reads⟩ := readString_of_spells item "a string"
            rw [reads, sole?]
            cases v.text? with
            | none => rfl
            | some s =>
                simp only [Option.map_some, Option.bind_some, blanks.skipBlanks_eq,
                  skipBlanks_cons rest (show Json.isBlank ']' = false from rfl)]
                rfl
        | @item _ behind _ v vs item others =>
            obtain ⟨left, blanks, _, reads⟩ := readString_of_spells item "a string"
            have several : sole? (v :: vs) = none := by
              cases others <;> rfl
            rw [reads, several]
            cases v.text? with
            | none => rfl
            | some s =>
                simp only [Option.map_some, Option.bind_some, blanks.skipBlanks_eq,
                  skipBlanks_cons behind (show Json.isBlank ',' = false from rfl)]
                split <;> rfl

end Members

section Candidates

variable {m : String × Written}

/-- A member under one of the keys of the version is a candidate. -/
theorem candidates_cons_of_mem (names : m.1 ∈ versionKeys) (ms : List (String × Written)) :
    candidates (m :: ms) = m :: candidates ms :=
  List.filter_cons_of_pos (decide_eq_true names)

/-- A member under another key is no candidate. -/
theorem candidates_cons_of_not_mem (other : m.1 ∉ versionKeys) (ms : List (String × Written)) :
    candidates (m :: ms) = candidates ms :=
  List.filter_cons_of_neg fun names => other (of_decide_eq_true names)

/-- Nothing is learned from a member under another key. -/
theorem learn_of_not_mem (other : m.1 ∉ versionKeys) (known : Option String) :
    learn known m = some known :=
  if_neg other

/-- A second candidate is refused. -/
theorem learn_again (names : m.1 ∈ versionKeys) (found : String) : learn (some found) m = none :=
  if_pos names

/-- The first candidate must be a string. -/
theorem learn_first (names : m.1 ∈ versionKeys) : learn none m = m.2.text?.map some :=
  if_pos names

end Candidates

/-- Once a version is known no candidate may follow. -/
theorem foldlM_learn_known (found : String) (members : List (String × Written)) :
    members.foldlM learn (some found) =
      if candidates members = [] then some (some found) else none := by
  induction members with
  | nil => rfl
  | cons m ms ih =>
      rw [List.foldlM_cons]
      by_cases names : m.1 ∈ versionKeys
      · rw [learn_again names, candidates_cons_of_mem names, if_neg (List.cons_ne_nil _ _)]
        rfl
      · rw [learn_of_not_mem names, candidates_cons_of_not_mem names]
        exact ih

/-- **What is learned in the end** is the value of the one candidate, if it is a string. -/
theorem foldlM_learn {members : List (String × Written)} {version : String} :
    (members.foldlM learn none).join = some version ↔
      ∃ name, candidates members = [(name, .string version)] := by
  induction members with
  | nil =>
      constructor
      · intro impossible
        cases impossible
      · rintro ⟨_, impossible⟩
        cases impossible
  | cons m ms ih =>
      rw [List.foldlM_cons]
      by_cases names : m.1 ∈ versionKeys
      · rw [learn_first names, candidates_cons_of_mem names]
        cases said : m.2.text? with
        | none =>
            constructor
            · intro impossible
              cases impossible
            · rintro ⟨name, same⟩
              rw [List.cons.injEq] at same
              rw [same.1] at said
              cases said
        | some s =>
            have states := Written.text?_eq_some.mp said
            have onwards : (some s).map some >>= (fun known => ms.foldlM learn known) =
                if candidates ms = [] then some (some s) else none := foldlM_learn_known s ms
            rw [onwards]
            by_cases alone : candidates ms = []
            · rw [if_pos alone, alone]
              constructor
              · intro same
                cases same
                exact ⟨m.1, by rw [← states]⟩
              · rintro ⟨name, same⟩
                rw [List.cons.injEq] at same
                rw [same.1] at states
                cases states
                rfl
            · rw [if_neg alone]
              constructor
              · intro impossible
                cases impossible
              · rintro ⟨name, same⟩
                exact absurd (List.cons.inj same).2 alone
      · rw [learn_of_not_mem names, candidates_cons_of_not_mem names]
        exact ih

section Documents

variable {text : String}

/-- A text is a manifest when a version is read and only blanks follow. -/
theorem parse_eq_ok {manifest : Manifest} : parse text = .ok manifest ↔
    ∃ rest, readVersion text.toList = .ok (manifest.version, rest) ∧ skipBlanks rest = [] := by
  rw [← readAll_eq_ok]
  unfold parse
  cases readAll readVersion text with
  | error error => simp only [reduceCtorEq]
  | ok version =>
      simp only [Except.ok.injEq]
      cases manifest
      rw [mk.injEq]

/-- A text that is no manifest is malformed. -/
theorem malformed_iff {names : String → Prop}
    (accepted : ∀ version, parse text = .ok ⟨version⟩ ↔ names version) :
    (∃ error, parse text = .error (.malformed error)) ↔ ∀ version, ¬ names version := by
  unfold parse at accepted ⊢
  cases reads : readAll readVersion text with
  | ok version =>
      rw [reads] at accepted
      constructor
      · rintro ⟨_, impossible⟩
        cases impossible
      · intro noVersion
        exact absurd ((accepted version).mp rfl) (noVersion version)
  | error error =>
      rw [reads] at accepted
      refine ⟨fun _ version found => ?_, fun _ => ⟨error, rfl⟩⟩
      cases (accepted version).mpr found

/-- What a document is read as: the sole string of a list, or what is learned from an object. -/
def versionOf? : Written → Option String
  | .list vs => sole? vs
  | .object ms => (ms.foldlM learn none).join
  | _ => none

/-- What is read of a written value is the version that it states. -/
theorem readVersion_of_spells {v : Written} {chars rest : List Char}
    (spelled : Spells (.element v) chars rest) : ∃ left, Blanks left rest ∧
      (readVersion chars).toOption = (versionOf? v).map (·, left) := by
  obtain ⟨c, more, begins, opens, stop, value, blanks⟩ := spelled.element_opens
  refine ⟨stop, blanks, ?_⟩
  cases v with
  | list vs =>
      cases opens
      rw [readVersion, begins]
      exact readList_of_spells value
  | object ms =>
      cases opens
      rw [readVersion, begins]
      exact readObject_of_spells value
  | null | boolean | number | string =>
      have foreign : readVersion chars = .error (mismatch expected (c :: more)) := by
        obtain ⟨noList, noObject⟩ := opens.plain nofun nofun
        unfold readVersion
        rw [begins]
        split
        · next impossible => cases impossible
        · next same =>
            cases same
            exact absurd rfl noList
        · next same =>
            cases same
            exact absurd rfl noObject
        · rfl
      rw [foreign]
      rfl

/-- A document is a manifest exactly when its value states a version. -/
theorem parse_of_document {v : Written} (document : Document text v) (manifest : Manifest) :
    parse text = .ok manifest ↔ versionOf? v = some manifest.version := by
  obtain ⟨left, blanks, reads⟩ := readVersion_of_spells document
  rw [parse_eq_ok]
  constructor
  · rintro ⟨rest, same, _⟩
    rw [same] at reads
    cases said : versionOf? v with
    | none =>
        rw [said] at reads
        cases reads
    | some version =>
        rw [said] at reads
        cases reads
        rfl
  · intro said
    rw [said] at reads
    refine ⟨left, ?_, blanks.skipBlanks_eq⟩
    cases same : readVersion text.toList with
    | error fault =>
        rw [same] at reads
        cases reads
    | ok result =>
        rw [same] at reads
        cases reads
        rfl

/-- A value that is no object states a version only as a list of one string. -/
theorem versionOf?_of_not_object {v : Written} (noObject : ∀ members, v ≠ .object members)
    {version : String} : versionOf? v = some version ↔ v = .list [.string version] := by
  cases v with
  | object members => exact absurd rfl (noObject members)
  | list vs =>
      rw [versionOf?, Written.list.injEq]
      match vs with
      | [] => exact ⟨nofun, nofun⟩
      | [v] => rw [sole?, Written.text?_eq_some, List.cons.injEq, and_iff_left rfl]
      | _ :: _ :: _ => exact ⟨nofun, nofun⟩
  | null | boolean | number | string => exact ⟨nofun, nofun⟩

/-- An object is a manifest exactly when it has one candidate, a string. -/
theorem parse_of_object {members : List (String × Written)}
    (document : Document text (.object members)) (manifest : Manifest) :
    parse text = .ok manifest ↔
      ∃ name, candidates members = [(name, .string manifest.version)] :=
  (parse_of_document document manifest).trans foldlM_learn

/-- A document that is no object is a manifest exactly when it is a list of one string. -/
theorem parse_of_not_object {v : Written} (document : Document text v)
    (noObject : ∀ members, v ≠ .object members) (manifest : Manifest) :
    parse text = .ok manifest ↔ v = .list [.string manifest.version] :=
  (parse_of_document document manifest).trans (versionOf?_of_not_object noObject)

end Documents

/-- **A manifest names one version.** Of the objects, those are manifests of which one member has a
name of the version and a string as its value, and that string is the version; all others are
malformed. Members with other names and the order of the members do not matter. Of the other
documents, the lists of a single string are manifests. -/
theorem accepts_one_version :
    (∀ text members, Document text (.object members) →
      (∀ manifest, parse text = .ok manifest ↔
        ∃ name, candidates members = [(name, .string manifest.version)]) ∧
      ((∃ error, parse text = .error (.malformed error)) ↔
        ∀ name version, candidates members ≠ [(name, .string version)])) ∧
    (∀ text other members others,
      Document text (.object members) → Document other (.object others) →
      (candidates members).Perm (candidates others) →
      ∀ manifest, parse text = .ok manifest ↔ parse other = .ok manifest) ∧
    ∀ text value, Document text value → (∀ members, value ≠ .object members) →
      (∀ manifest, parse text = .ok manifest ↔ value = .list [.string manifest.version]) ∧
      ((∃ error, parse text = .error (.malformed error)) ↔
        ∀ version, value ≠ .list [.string version]) := by
  refine ⟨fun text members document => ?_, fun text other members others document second same => ?_,
    fun text value document noObject => ?_⟩
  · have accepted := parse_of_object document
    refine ⟨accepted, (malformed_iff fun version => accepted ⟨version⟩).trans ?_⟩
    simp only [not_exists]
    exact forall_comm
  · intro manifest
    rw [parse_of_object document, parse_of_object second]
    apply exists_congr
    intro name
    constructor
    · intro names
      rw [names] at same
      exact (List.singleton_perm.mp same).symm
    · intro names
      rw [names] at same
      exact List.perm_singleton.mp same
  · have accepted := parse_of_not_object document noObject
    exact ⟨accepted, malformed_iff fun version => accepted ⟨version⟩⟩

/-- A member with another name is passed over, though its numeral is too large for a number. -/
theorem accepts_one_version_aliased :
    parse "\x7b\"x\":1e999,\"latest\":\"1.2.0\"\x7d" = .ok ⟨"1.2.0"⟩ ∧
    (∀ manifest, parse "\x7b\"x\":1e999,\"latest\":\"1.2.0\"\x7d" = .ok manifest ↔
      parse "\x7b\"latest\":\"1.2.0\"\x7d" = .ok manifest) ∧
    parse "[\"1.2.0\"]" = .ok ⟨"1.2.0"⟩ := by
  have version (rest : List Char) :
      Spells (.element (.string "1.2.0")) ("\"1.2.0\"".toList ++ rest) rest :=
    .element .none (.string (.of_plain "1.2.0".toList rest (by simp))) .none
  have latest (rest : List Char) :
      Spells (.member ("latest", .string "1.2.0")) ("\"latest\":\"1.2.0\"".toList ++ rest) rest :=
    .member .none (.of_plain "latest".toList _ (by simp)) .none (version rest)
  have numeral (rest : List Char) : Numeral.Stands ("1e999".toList ++ rest)
      ⟨false, ['1'], none, some (false, ['9', '9', '9'])⟩ rest :=
    .plain ⟨⟨by simp, by simp, rfl⟩, by simp⟩ .absent (.plain (.inl rfl) ⟨by simp, by simp, rfl⟩)
  have other (rest : List Char) :
      Spells (.member ("x", .number _)) ("\"x\":1e999".toList ++ rest) rest :=
    .member .none (.of_plain "x".toList _ (by simp)) .none
      (.element .none (.number (numeral rest)) .none)
  have both : Document "\x7b\"x\":1e999,\"latest\":\"1.2.0\"\x7d"
      (.object [("x", .number _), ("latest", .string "1.2.0")]) :=
    .element .none (.object (.nextMember (other _) (.lastMember (latest _)))) .none
  have alone : Document "\x7b\"latest\":\"1.2.0\"\x7d" (.object [("latest", .string "1.2.0")]) :=
    .element .none (.object (.lastMember (latest _))) .none
  have single : Document "[\"1.2.0\"]" (.list [.string "1.2.0"]) :=
    .element .none (.list (.lastItem (version _))) .none
  obtain ⟨objects, same, others⟩ := accepts_one_version
  refine ⟨((objects _ _ both).1 _).mpr ⟨"latest", by rfl⟩, same _ _ _ _ both alone (.refl _), ?_⟩
  exact ((others _ _ single nofun).1 _).mpr rfl

end Manifest

end LintReport
