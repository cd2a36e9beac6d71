import NodeSurvey.Labeler.Connection

/-! What a call over the connection can do. A dial that succeeds leaves a client, every other call
leaves the connection as it was, and a request goes out exactly when a client is held. -/

namespace NodeSurvey.Labeler

def Traffic.request? : Traffic → Option Request
  | .dial _ => none
  | .request r => some r

def ConnectionError.isMisuse : ConnectionError → Bool
  | .alreadyConnected | .notConnected => true
  | _ => false

/-- A computation whose errors tell of something else than of a call in the wrong state. -/
def Proper {α : Type} (x : Except ConnectionError α) : Prop :=
  ∀ e, x = .error e → e.isMisuse = false

theorem proper_ok {α : Type} (a : α) : Proper (.ok a) := fun _ h => by cases h

theorem proper_error {α : Type} {e : ConnectionError} (he : e.isMisuse = false) :
    Proper (.error e : Except ConnectionError α) := fun _ h => Except.error.inj h ▸ he

theorem Proper.bind {α β : Type} {x : Except ConnectionError α}
    {f : α → Except ConnectionError β} (hx : Proper x) (hf : ∀ a, Proper (f a)) :
    Proper (x >>= f) := by
  intro e h
  cases x with
  | error e' =>
    have he : e' = e := Except.error.inj h
    exact hx e (he ▸ rfl)
  | ok a => exact hf a e h

theorem proper_ite {α : Type} {p : Prop} [Decidable p] {x y : Except ConnectionError α}
    (hx : Proper x) (hy : Proper y) : Proper (if p then x else y) := by
  split
  · exact hx
  · exact hy

theorem Settings.proper_validate (s : Settings) : Proper s.validate :=
  proper_ite (proper_ok _) <| proper_ite (proper_error rfl) <|
    proper_ite (proper_error rfl) <| proper_ite (proper_error rfl) (proper_ok _)

theorem proper_readCredential (read : Reader) (path : String) :
    Proper (readCredential read path) := by
  intro e h
  cases hr : read path with
  | error io =>
    rw [readCredential, hr] at h
    exact proper_error rfl e h
  | ok text =>
    rw [readCredential, hr] at h
    exact proper_ok text e h

theorem Settings.proper_credentials (s : Settings) (read : Reader) :
    Proper (s.credentials read) := by
  rw [credentials]
  split
  · exact (proper_readCredential _ _).bind fun _ => (proper_readCredential _ _).bind fun _ =>
      (proper_readCredential _ _).bind fun _ => proper_ok _
  · exact proper_ok _

theorem Settings.proper_endpoint (s : Settings) (read : Reader) (via : Transport) :
    Proper (s.endpoint read via) := by
  refine (s.proper_credentials read).bind fun c => ?_
  refine proper_ite (proper_error (e := .invalidAddress s.server .malformed) rfl) ?_
  exact proper_ite (proper_error (e := .invalidAddress s.server .unusable) rfl) (proper_ok _)

namespace Connection

variable {c : Connection} {read : Reader} {via : Transport}
  {answer : Request → ReportOutcome} {r : Request}

@[simp] theorem dryRun_setDryRun (c : Connection) (on : Bool) : (c.setDryRun on).dryRun = on := by
  cases on <;> rfl

@[simp] theorem client_setDryRun (c : Connection) (on : Bool) :
    (c.setDryRun on).client = (c.client && !on) := by
  cases on <;> simp [setDryRun, disconnect]

theorem settings_setDryRun (c : Connection) (on : Bool) :
    (c.setDryRun on).settings = c.settings := by
  cases on <;> rfl

theorem state_eq_connected_iff : c.state = .connected ↔ c.client = true := by
  rw [state]
  cases c.client <;> cases c.dryRun <;> simp

theorem state_eq_disconnected_iff :
    c.state = .disconnected ↔ c.client = false ∧ c.dryRun = false := by
  rw [state]
  cases c.client <;> cases c.dryRun <;> simp

theorem connect_of_dryRun (h : c.dryRun = true) : c.connect read via = ⟨c, [], .ok ()⟩ :=
  if_pos h

theorem connect_of_client (hd : c.dryRun = false) (hc : c.client = true) :
    c.connect read via = ⟨c, [], .error .alreadyConnected⟩ := by
  rw [connect, if_neg (by simp [hd]), if_pos hc]

theorem traffic_connect_of_prepare (hd : c.dryRun = false) (hc : c.client = false) {e : Endpoint}
    (hp : c.prepare read via = .ok e) : (c.connect read via).traffic = [.dial e] := by
  rw [connect, if_neg (by simp [hd]), if_neg (by simp [hc]), hp]
  cases ho : via.dial e <;> simp only [ho]

theorem proper_prepare (c : Connection) (read : Reader) (via : Transport) :
    Proper (c.prepare read via) :=
  c.settings.proper_validate.bind fun _ => c.settings.proper_endpoint read via

inductive Dials (c : Connection) (read : Reader) (via : Transport) : Call → Prop
  | dry : c.dryRun = true → Dials c read via ⟨c, [], .ok ()⟩
  | again : c.dryRun = false → c.client = true → Dials c read via ⟨c, [], .error .alreadyConnected⟩
  | unprepared (e : ConnectionError) : c.dryRun = false → c.client = false →
      c.prepare read via = .error e → Dials c read via ⟨c, [], .error e⟩
  | connected (endpoint : Endpoint) : c.dryRun = false → c.client = false →
      c.prepare read via = .ok endpoint → via.dial endpoint = .connected →
      Dials c read via ⟨{ c with client := true }, [.dial endpoint], .ok ()⟩
  | failed (endpoint : Endpoint) : c.dryRun = false → c.client = false →
      c.prepare read via = .ok endpoint → via.dial endpoint = .failed →
      Dials c read via ⟨c, [.dial endpoint], .error (.dialFailed c.settings.server)⟩
  | timedOut (endpoint : Endpoint) : c.dryRun = false → c.client = false →
      c.prepare read via = .ok endpoint → via.dial endpoint = .timedOut →
      Dials c read via
        ⟨c, [.dial endpoint], .error (.dialTimedOut c.settings.server c.dialLimit)⟩

theorem connect_dials (c : Connection) (read : Reader) (via : Transport) :
    Dials c read via (c.connect read via) := by
  cases hd : c.dryRun with
  | true =>
    rw [connect, if_pos hd]
    exact .dry hd
  | false =>
    rw [connect, if_neg (by simp [hd])]
    cases hc : c.client with
    | true => exact .again hd hc
    | false =>
      simp only [Bool.false_eq_true, if_false]
      cases hp : c.prepare read via with
      | error e => exact .unprepared e hd hc hp
      | ok endpoint =>
        cases ho : via.dial endpoint with
        | connected =>
          simp only [ho]
          exact .connected endpoint hd hc hp ho
        | failed =>
          simp only [ho]
          exact .failed endpoint hd hc hp ho
        | timedOut =>
          simp only [ho]
          exact .timedOut endpoint hd hc hp ho

theorem dryRun_connect (c : Connection) (read : Reader) (via : Transport) :
    (c.connect read via).connection.dryRun = c.dryRun := by
  have h := connect_dials c read via
  generalize c.connect read via = call at h
  cases h <;> rfl

theorem settings_connect (c : Connection) (read : Reader) (via : Transport) :
    (c.connect read via).connection.settings = c.settings := by
  have h := connect_dials c read via
  generalize c.connect read via = call at h
  cases h <;> rfl

theorem client_connect (hc : c.client = false) (h : (c.connect read via).result = .ok ()) :
    (c.connect read via).connection.client = !c.dryRun := by
  have hd := connect_dials c read via
  generalize c.connect read via = call at hd h
  cases hd with
  | dry hd => simp [hc, hd]
  | connected endpoint hd => simp [hd]
  | again | unprepared | failed | timedOut => cases h

theorem client_of_connect (hd : c.dryRun = false) (h : (c.connect read via).result = .ok ()) :
    c.client = false := by
  have hs := connect_dials c read via
  generalize c.connect read via = call at hs h
  cases hs with
  | dry hd' => simp [hd] at hd'
  | connected endpoint _ hc => exact hc
  | again | unprepared | failed | timedOut => cases h

theorem connection_of_connect_error {e : ConnectionError}
    (h : (c.connect read via).result = .error e) : (c.connect read via).connection = c := by
  have hd := connect_dials c read via
  generalize c.connect read via = call at hd h
  cases hd with
  | dry | connected => cases h
  | again | unprepared | failed | timedOut => rfl

theorem proper_connect (hc : c.client = false) : Proper (c.connect read via).result := by
  have hd := connect_dials c read via
  generalize c.connect read via = call at hd
  cases hd with
  | dry | connected => exact proper_ok _
  | again _ hc' => simp [hc] at hc'
  | unprepared e _ _ hp => exact proper_error (c.proper_prepare read via e hp)
  | failed | timedOut => exact proper_error rfl

theorem alreadyConnected_iff (hd : c.dryRun = false) :
    (c.connect read via).result = .error .alreadyConnected ↔ c.client = true := by
  constructor
  · intro h
    cases hc : c.client with
    | true => rfl
    | false => simpa [ConnectionError.isMisuse] using proper_connect hc _ h
  · intro hc
    rw [connect_of_client hd hc]

theorem client_connect_iff :
    (c.connect read via).connection.client = true ↔
      (c.dryRun = false ∧ (c.connect read via).result = .ok ()) ∨ c.client = true := by
  have h := connect_dials c read via
  generalize c.connect read via = call at h
  cases h with
  | dry hd => simp [hd]
  | connected endpoint hd => simp [hd]
  | again | unprepared | failed | timedOut => simp

theorem prepare_of_dial {e : Endpoint} (h : .dial e ∈ (c.connect read via).traffic) :
    c.prepare read via = .ok e := by
  have hd := connect_dials c read via
  generalize c.connect read via = call at hd h
  cases hd with
  | dry | again | unprepared => cases h
  | connected e' _ _ hp | failed e' _ _ hp | timedOut e' _ _ hp =>
    obtain rfl : e = e' := by simpa using h
    exact hp

theorem requests_connect (c : Connection) (read : Reader) (via : Transport) :
    (c.connect read via).traffic.filterMap Traffic.request? = [] := by
  have h := connect_dials c read via
  generalize c.connect read via = call at h
  cases h <;> rfl

@[simp] theorem connection_report (c : Connection) (answer : Request → ReportOutcome)
    (r : Request) : (c.report answer r).connection = c := by
  rw [report]
  split
  · rfl
  · split <;> rfl

theorem report_of_no_client (hc : c.client = false) :
    c.report answer r = ⟨c, [], .error .notConnected⟩ := by
  rw [report, if_pos (by simp [hc])]

theorem report_of_accepted (hc : c.client = true) (h : answer r = .accepted) :
    c.report answer r = ⟨c, [.request r], .ok ()⟩ := by
  rw [report, if_neg (by simp [hc]), h]

theorem answer_of_report (hc : c.client = true) (h : (c.report answer r).result = .ok ()) :
    answer r = .accepted := by
  rw [report, if_neg (by simp [hc])] at h
  split at h
  · assumption
  · cases h
  · cases h

theorem traffic_report (hc : c.client = true) : (c.report answer r).traffic = [.request r] := by
  rw [report, if_neg (by simp [hc])]
  split <;> rfl

theorem dial_not_mem_report (c : Connection) (answer : Request → ReportOutcome) (r : Request)
    (e : Endpoint) : .dial e ∉ (c.report answer r).traffic := by
  cases hc : c.client with
  | false => simp [report_of_no_client hc]
  | true => simp [traffic_report hc]

theorem proper_report (hc : c.client = true) : Proper (c.report answer r).result := by
  rw [report, if_neg (by simp [hc])]
  split
  · exact proper_ok _
  · exact proper_error rfl
  · exact proper_error rfl

end Connection

end NodeSurvey.Labeler
