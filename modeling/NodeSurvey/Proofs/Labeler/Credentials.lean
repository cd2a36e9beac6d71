import NodeSurvey.Proofs.Labeler.Connection

/-! The credentials of a dial. With none of their files named a dial is a plain one; as soon as one
is named, a dial needs all three, readable and of use, and then it is encrypted. -/

namespace NodeSurvey.Labeler

theorem bind_eq_ok_iff {α β : Type} {x : Except ConnectionError α}
    {f : α → Except ConnectionError β} {b : β} :
    x >>= f = .ok b ↔ ∃ a, x = .ok a ∧ f a = .ok b := by
  cases x <;> simp [bind, Except.bind]

theorem readCredential_eq_ok_iff {read : Reader} {path : String} {content : Content} :
    readCredential read path = .ok content ↔ read path = .ok content := by
  rw [readCredential]
  cases read path with
  | ok found =>
    change Except.ok found = Except.ok content ↔ _
    simp
  | error e =>
    change Except.error (ConnectionError.unreadableCredentials path e) = Except.ok content ↔ _
    simp

namespace Settings

variable {s : Settings} {read : Reader} {via : Transport}

/-- All three files are named, and they hold these credentials now. -/
structure Provides (s : Settings) (read : Reader) (given : Credentials) : Prop where
  certificate : s.certificateFile.map read = some (.ok given.certificate)
  key : s.keyFile.map read = some (.ok given.key)
  authority : s.authorityFile.map read = some (.ok given.authority)
  serverName : s.serverName = given.serverName

theorem credentials_eq_some_iff {given : Credentials} :
    s.credentials read = .ok (some given) ↔ s.Provides read given := by
  rw [credentials]
  split
  · rename_i certificate key authority hc hk ha
    simp only [bind_eq_ok_iff, readCredential_eq_ok_iff]
    constructor
    · rintro ⟨c, hc', k, hk', a, ha', h⟩
      cases h
      constructor
      · rw [hc, Option.map_some, hc']
      · rw [hk, Option.map_some, hk']
      · rw [ha, Option.map_some, ha']
      · rfl
    · rintro ⟨hc', hk', ha', hn⟩
      rw [hc, Option.map_some] at hc'
      rw [hk, Option.map_some] at hk'
      rw [ha, Option.map_some] at ha'
      refine ⟨_, Option.some.inj hc', _, Option.some.inj hk', _, Option.some.inj ha', ?_⟩
      rw [hn]
      rfl
  · rename_i hmissing
    constructor
    · rintro ⟨⟩
    · rintro ⟨hc, hk, ha, -⟩
      obtain ⟨c, hc, -⟩ := Option.map_eq_some_iff.mp hc
      obtain ⟨k, hk, -⟩ := Option.map_eq_some_iff.mp hk
      obtain ⟨a, ha, -⟩ := Option.map_eq_some_iff.mp ha
      exact absurd ha (hmissing c k a hc hk)

theorem isNone_of_credentials (h : s.credentials read = .ok none) :
    s.certificateFile = none ∨ s.keyFile = none ∨ s.authorityFile = none := by
  rw [credentials] at h
  split at h
  · simp only [bind_eq_ok_iff] at h
    obtain ⟨c, -, k, -, a, -, h⟩ := h
    cases h
  · rename_i hmissing
    cases hc : s.certificateFile with
    | none => exact .inl rfl
    | some c =>
      cases hk : s.keyFile with
      | none => exact .inr (.inl rfl)
      | some k =>
        cases ha : s.authorityFile with
        | none => exact .inr (.inr rfl)
        | some a => exact (hmissing c k a hc hk ha).elim

theorem validate_eq_ok_iff :
    s.validate = .ok () ↔ s.usesCredentials = false ∨
      s.certificateFile ≠ none ∧ s.keyFile ≠ none ∧ s.authorityFile ≠ none := by
  obtain ⟨server, authority, certificate, key, name⟩ := s
  cases authority <;> cases certificate <;> cases key <;> simp [validate, usesCredentials]

theorem Provides.validate {given : Credentials} (h : s.Provides read given) :
    s.validate = .ok () := by
  obtain ⟨c, hc, -⟩ := Option.map_eq_some_iff.mp h.certificate
  obtain ⟨k, hk, -⟩ := Option.map_eq_some_iff.mp h.key
  obtain ⟨a, ha, -⟩ := Option.map_eq_some_iff.mp h.authority
  exact validate_eq_ok_iff.mpr (.inr (by simp [hc, hk, ha]))

theorem endpoint_eq_ok_iff {e : Endpoint} :
    s.endpoint read via = .ok e ↔ s.credentials read = .ok e.credentials ∧
      via.isAddress (scheme e.credentials) s.server = true ∧
      e.credentials.all (via.accepts · s.server) = true ∧ e.server = s.server := by
  rw [endpoint, bind_eq_ok_iff]
  constructor
  · rintro ⟨credentials, hc, h⟩
    cases ha : via.isAddress (scheme credentials) s.server with
    | false =>
      rw [ha] at h
      cases h
    | true =>
      cases hu : credentials.all (via.accepts · s.server) with
      | false =>
        rw [ha, hu] at h
        cases h
      | true =>
        rw [ha, hu] at h
        cases h
        exact ⟨hc, ha, hu, rfl⟩
  · rintro ⟨hc, ha, hu, hs⟩
    refine ⟨e.credentials, hc, ?_⟩
    rw [ha, hu, ← hs]
    rfl

end Settings

namespace Connection

variable {c : Connection} {read : Reader} {via : Transport}

/-- With a file of credentials named, a dial is prepared exactly if all three give credentials of
use, and it is prepared with these. -/
theorem prepare_eq_ok_iff (hu : c.settings.usesCredentials = true) {e : Endpoint} :
    c.prepare read via = .ok e ↔ ∃ given, c.settings.Provides read given ∧
      via.accepts given c.settings.server = true ∧
      via.isAddress (scheme (some given)) c.settings.server = true ∧
      e = ⟨c.settings.server, some given⟩ := by
  rw [prepare, bind_eq_ok_iff]
  simp only [Settings.endpoint_eq_ok_iff]
  constructor
  · rintro ⟨⟨⟩, hv, hc, ha, huse, hs⟩
    have hnamed := (Settings.validate_eq_ok_iff.mp hv).resolve_left (by simp [hu])
    obtain ⟨server, _ | given⟩ := e
    · rcases Settings.isNone_of_credentials hc with h | h | h <;> simp [h] at hnamed
    · subst hs
      exact ⟨given, Settings.credentials_eq_some_iff.mp hc, by simpa using huse, ha, rfl⟩
  · rintro ⟨given, hg, huse, ha, rfl⟩
    exact ⟨(), hg.validate, Settings.credentials_eq_some_iff.mpr hg, ha, by simpa using huse, rfl⟩

theorem not_dials_of_unusable (hd : c.dryRun = false) (hu : c.settings.usesCredentials = true)
    (h : ∀ given, c.settings.Provides read given → via.accepts given c.settings.server = false) :
    (c.connect read via).traffic = [] ∧ ∃ e, (c.connect read via).result = .error e := by
  have hprep : ∀ e, c.prepare read via ≠ .ok e := by
    intro e hp
    obtain ⟨given, hg, huse, -⟩ := (prepare_eq_ok_iff hu).mp hp
    cases (h given hg).symm.trans huse
  have hs := connect_dials c read via
  generalize c.connect read via = call at hs
  cases hs with
  | dry hd' => cases hd.symm.trans hd'
  | again | unprepared => exact ⟨rfl, _, rfl⟩
  | connected e _ _ hp | failed e _ _ hp | timedOut e _ _ hp => exact (hprep e hp).elim

end Connection

end NodeSurvey.Labeler
