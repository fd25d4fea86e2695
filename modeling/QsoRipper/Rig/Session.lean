/-
QsoRipper/Rig/Session.lean

Snapshots over the cached rigctld connection, and the server at the other end.
Calls take the connection one at a time; each can fail anywhere, and its future
can be dropped wherever it waits.

A line carries the number of the command it is a reply to, and a session is in
step as long as each line is read by that command.
-/
import QsoRipper.Lib.Transition
import QsoRipper.Rig.Rigctld

namespace QsoRipper.Rig

open Interaction

/-! ### The session -/

/-- A line of a reply, with the number of its command. -/
structure Line where
  command : ℕ
  text : String
deriving DecidableEq

/-- A connection: how many commands have been sent, and the lines of their
replies that have not been read. -/
structure Connection where
  sent : ℕ
  pending : List Line
deriving DecidableEq

/-- The provider, with the call that holds the connection, and what has been read:
each line with the number of the command that has read it. -/
structure Session where
  call : Option (RigProgram RigState)
  connection : Option Connection
  reads : List (ℕ × Line)

/-- What the server answers a command: a complete reply or one error line. -/
def IsReply (command : RigctldCommand) (reply : List String) : Prop :=
  reply.length = command.replyLines
    ∨ ∃ line, reply = [line] ∧ isRprt line = true

/-- The connection after a command and its reply. -/
def Connection.answered (c : Connection) (reply : List String) : Connection :=
  ⟨c.sent + 1, c.pending ++ reply.map (Line.mk (c.sent + 1))⟩

/-- How a command of the program is served; `reply` is what the server answers.
A write or a read that fails leaves the connection in any state. -/
inductive Serves : Session → (c : RigCmd) → c.Answer → List String → Session → Prop
  | isConnected {s : Session} : Serves s .isConnected s.connection.isSome [] s
  | connect {s : Session} :
      Serves s .connect (.ok ()) [] { s with connection := some ⟨0, []⟩ }
  | refuse {s : Session} {failure : ConnectFailure} :
      Serves s .connect (.error failure) [] s
  | write {s : Session} {c : Connection} {command : RigctldCommand} {reply : List String} :
      s.connection = some c → IsReply command reply →
      Serves s (.writeAll command) (.ok ()) reply { s with connection := some (c.answered reply) }
  | writeFails {s : Session} {c : Connection} {command : RigctldCommand} {error : String} :
      Serves s (.writeAll command) (.error error) [] { s with connection := some c }
  | read {s : Session} {c : Connection} {line : Line} {rest : List Line} :
      s.connection = some c → c.pending = line :: rest →
      Serves s .readLine (.line line.text) []
        { s with
          connection := some { c with pending := rest }
          reads := s.reads ++ [(c.sent, line)] }
  | readFails {s : Session} {c : Connection} {result : LineRead} :
      (∀ line, result ≠ .line line) →
      Serves s .readLine result [] { s with connection := some c }
  | take {s : Session} : Serves s .take () [] { s with connection := none }

/-- The commands at which a call waits. -/
def RigCmd.awaits : RigCmd → Bool
  | connect | writeAll _ | readLine => true
  | isConnected | take => false

/-- What happens to the session. -/
inductive SessionMove where
  /-- `get_snapshot` takes the lock. -/
  | start
  | act (e : Event RigCmd RigCmd.Answer) (reply : List String)
  | finish
  /-- The future of the call is dropped. -/
  | drop

/-- One step. -/
inductive SessionStep (text : PowerText) : Session → SessionMove → Session → Prop
  | start {s : Session} :
      s.call = none → SessionStep text s .start { s with call := some (getSnapshot text) }
  | act {s s' : Session} {c : RigCmd} {k : c.Answer → RigProgram RigState} {r : c.Answer}
      {reply : List String} :
      s.call = some (Prog.cmd c k) → Serves s c r reply s' →
      SessionStep text s (.act ⟨c, r⟩ reply) { s' with call := some (k r) }
  | finish {s : Session} {result : Except RigControlProviderError RigState} :
      s.call = some (Prog.pure result) → SessionStep text s .finish { s with call := none }
  | drop {s : Session} {c : RigCmd} {k : c.Answer → RigProgram RigState} :
      s.call = some (Prog.cmd c k) → c.awaits = true →
      SessionStep text s .drop { s with call := none }

/-- A provider without a connection. -/
def Session.new : Session := ⟨none, none, []⟩

/-- **In step**: each line was read by the command it replies to, and no line is
outstanding on a connection that is kept for the next call. -/
def Session.InStep (s : Session) : Prop :=
  (∀ read ∈ s.reads, read.2.command = read.1)
    ∧ (s.call = none → ∀ c ∈ s.connection, c.pending = [])

/-! ### When it holds -/

/-- The call waits for a line. -/
def Session.Reading (s : Session) : Prop :=
  ∃ k : LineRead → RigProgram RigState, s.call = some (Prog.cmd RigCmd.readLine k)

/-- A complete reply that begins like an error. -/
def Ambiguous (reply : List String) : Prop :=
  ∃ first second, reply = [first, second] ∧ isRprt first = true

/-- No call is dropped while it waits for a line, and no reply of two lines begins
like an error. -/
def Undisturbed (_ : List SessionMove) (s : Session) : SessionMove → Prop
  | .drop => ¬ s.Reading
  | .act _ reply => ¬ Ambiguous reply
  | .start | .finish => True

/-! ### What the program knows of the connection -/

/-- Where the conversation stands. -/
inductive Talk where
  | closed
  | quiet
  | first (command : RigctldCommand)
  | second
  | broken

/-- The commands that are in place. -/
def Talk.Allows : Talk → RigCmd → Prop
  | .closed, .isConnected | .quiet, .isConnected | .closed, .connect => True
  | .quiet, .writeAll _ | .first _, .readLine | .second, .readLine => True
  | _, .take => True
  | _, _ => False

/-- After a line: a reply of two lines goes on, unless it is an error. -/
def Talk.afterLine (line : String) : Talk → Talk
  | .first command => if command.replyLines = 2 ∧ isRprt line = false then .second else .quiet
  | _ => .quiet

/-- Where it stands after an answer. -/
def Talk.next (t : Talk) : (c : RigCmd) → c.Answer → Talk
  | .isConnected, connected => if connected then .quiet else .closed
  | .connect, .ok () => .quiet
  | .connect, .error _ => .closed
  | .writeAll command, .ok () => .first command
  | .writeAll _, .error _ => .broken
  | .readLine, .line line => t.afterLine line
  | .readLine, _ => .broken
  | .take, _ => .closed

/-- Write only when nothing is outstanding, read only what is. -/
def conversation : Contract RigCmd RigCmd.Answer Talk where
  allowed := Talk.Allows
  next := Talk.next

/-- A result leaves the conversation where `u` says; an error that keeps the
connection leaves nothing outstanding. -/
def After {α : Type} (u : α → Talk) (t : Talk) : Except RigControlProviderError α → Prop
  | .ok a => t = u a
  | .error error => error.isRetryable = false → t = .quiet

/-- The program leads from `t` to where `u` says. -/
def Leads {α : Type} (p : RigProgram α) (t : Talk) (u : α → Talk) : Prop :=
  Fallible.Obeys conversation (After u) p t

section Leads

variable {α β : Type} {t : Talk} {u : α → Talk} {v : β → Talk}

theorem Leads.bind {p : RigProgram α} {f : α → RigProgram β} (hp : Leads p t u)
    (hf : ∀ a, Leads (f a) (u a) v) : Leads (p >>= f) t v := by
  rw [Leads, Fallible.obeys_bind]
  refine hp.mono ?_
  rintro t' (error | a) hresult
  · exact hresult
  · cases hresult
    exact hf a

theorem leads_pure {a : α} (h : t = u a) : Leads (pure a) t u := h

/-- An error that is found when nothing is outstanding. -/
theorem leads_throw {error : RigControlProviderError} :
    Leads (throw error : RigProgram α) .quiet u := fun _ => rfl

theorem leads_writeAll (command : RigctldCommand) :
    Leads (writeAll command) .quiet fun _ => .first command := by
  rw [writeAll, Leads, ask, Fallible.obeys_lift]
  refine ⟨trivial, fun r => ?_⟩
  rcases r with error | ⟨⟩
  · exact fun hno => nomatch hno
  · rfl

theorem afterLine_first_one {command : RigctldCommand} (h : command.replyLines = 1)
    (line : String) : (Talk.first command).afterLine line = .quiet := by
  rw [Talk.afterLine, if_neg]
  rintro ⟨hno, -⟩
  rw [h] at hno
  cases hno

theorem afterLine_first_two {command : RigctldCommand} (h : command.replyLines = 2)
    (line : String) :
    (Talk.first command).afterLine line = if isRprt line then .quiet else .second := by
  rw [Talk.afterLine, h]
  rcases isRprt line <;> simp

/-- Reading a line that is outstanding. -/
theorem leads_readLine {s : Talk} (hallows : t.Allows .readLine)
    (hline : ∀ line, t.afterLine line = if isRprt line then .quiet else s) :
    Leads readLineWithTimeout t fun _ => s := by
  rw [readLineWithTimeout, Leads, ask, Fallible.obeys_lift]
  refine ⟨hallows, fun r => ?_⟩
  cases r with
  | line line =>
    show Fallible.Obeys conversation _ _ (t.afterLine line)
    rw [hline]
    dsimp only
    by_cases hrprt : isRprt line = true
    · rw [if_pos hrprt, if_pos hrprt]
      exact fun _ => rfl
    · rw [if_neg hrprt, if_neg hrprt]
      rfl
  | timedOut => exact fun hno => nomatch hno
  | failed error => exact fun hno => nomatch hno
  | closed => exact fun hno => nomatch hno

/-- The line after which a one-line reply is complete. -/
theorem leads_readLine_one {command : RigctldCommand} (h : command.replyLines = 1) :
    Leads readLineWithTimeout (.first command) fun _ => .quiet :=
  leads_readLine trivial fun line => by rw [afterLine_first_one h, ite_self]

theorem leads_readLine_two {command : RigctldCommand} (h : command.replyLines = 2) :
    Leads readLineWithTimeout (.first command) fun _ => .second :=
  leads_readLine trivial (afterLine_first_two h)

theorem leads_readLine_second : Leads readLineWithTimeout .second fun _ => .quiet :=
  leads_readLine trivial fun line => by rw [ite_self]; rfl

/-- Where an optional line leads: nothing is outstanding after an error line. -/
def optionally (s : Talk) (line : Option String) : Talk := if line.isSome then s else .quiet

/-- An optional line: an error line counts as no line. -/
theorem leads_readOptionalLine {s : Talk} (h : Leads readLineWithTimeout t fun _ => s) :
    Leads readOptionalLine t (optionally s) := by
  show Prog.Obeys conversation _ _ t
  rw [readOptionalLine]
  refine Prog.obeys_bind.mpr (Prog.Obeys.mono ?_ h)
  rintro t' (error | line) hresult
  · dsimp only
    split_ifs with hkind
    · refine hresult ?_
      rw [RigControlProviderError.isRetryable, hkind]
      rfl
    · exact hresult
  · exact hresult

theorem leads_optional_one {command : RigctldCommand} (h : command.replyLines = 1) :
    Leads readOptionalLine (.first command) fun _ => .quiet := by
  refine (leads_readOptionalLine (leads_readLine_one h)).mono ?_
  rintro t' (error | line) hresult
  · exact hresult
  · rw [After, optionally, ite_self] at hresult
    exact hresult

/-! ### The commands of a snapshot -/

theorem leads_split : Leads readOptionalSplitState .quiet fun _ => .quiet := by
  rw [readOptionalSplitState]
  refine (leads_writeAll .split).bind fun _ => ?_
  refine (leads_readOptionalLine (leads_readLine_two rfl)).bind fun splitLine => ?_
  rcases splitLine with - | splitLine
  · exact leads_pure rfl
  refine (leads_readOptionalLine leads_readLine_second).bind fun txVfo => ?_
  rcases txVfo with - | txVfo
  · exact leads_pure rfl
  show Leads (if splitLine ≠ "1" then _ else _) .quiet _
  split_ifs
  · exact leads_pure rfl
  refine (leads_writeAll .splitFrequency).bind fun _ => ?_
  refine (leads_optional_one rfl).bind fun frequencyLine => ?_
  rcases frequencyLine with - | frequencyLine
  · exact leads_pure rfl
  dsimp only
  rcases Text.parseUnsigned (2 ^ 64) frequencyLine with - | frequencyHz
  · exact leads_pure rfl
  refine (leads_writeAll .splitMode).bind fun _ => ?_
  refine (leads_readOptionalLine (leads_readLine_two rfl)).bind fun splitMode => ?_
  -- the passband is read only after a mode
  rcases splitMode with - | splitMode
  · exact leads_pure rfl
  · exact leads_readLine_second.bind fun _ => leads_pure rfl

theorem leads_txPower (text : PowerText) (frequencyHz : ℕ) (rawMode : String) :
    Leads (readOptionalTxPower text frequencyHz rawMode) .quiet fun _ => .quiet := by
  rw [readOptionalTxPower]
  refine (leads_writeAll .rfPower).bind fun _ => ?_
  refine (leads_optional_one rfl).bind fun relativeLine => ?_
  rcases relativeLine with - | relativeLine
  · exact leads_pure rfl
  dsimp only
  rcases text.parse relativeLine with - | relativePower
  · exact leads_pure rfl
  show Leads (if _ then _ else _) .quiet _
  split_ifs
  · exact leads_pure rfl
  refine (leads_writeAll _).bind fun _ => ?_
  refine (leads_optional_one rfl).bind fun milliwattsLine => ?_
  rcases milliwattsLine with - | milliwattsLine
  · exact leads_pure rfl
  dsimp only
  rcases Text.parseUnsigned (2 ^ 32) milliwattsLine with - | milliwatts <;> exact leads_pure rfl

theorem leads_onConnection (text : PowerText) :
    Leads (readRigStateOnConnection text) .quiet fun _ => .quiet := by
  rw [readRigStateOnConnection]
  refine (leads_writeAll .frequency).bind fun _ => ?_
  refine (leads_readLine_one rfl).bind fun freqLine => ?_
  have hfrequency : Leads (parseFrequency freqLine) .quiet fun _ => .quiet := by
    rw [parseFrequency]
    rcases Text.parseUnsigned (2 ^ 64) (Text.trim freqLine) with - | frequencyHz
    · exact leads_throw
    · exact leads_pure rfl
  refine hfrequency.bind fun frequencyHz => ?_
  refine (leads_writeAll .mode).bind fun _ => ?_
  refine (leads_readLine_two rfl).bind fun modeLine => ?_
  refine leads_readLine_second.bind fun _ => ?_
  refine leads_split.bind fun split => ?_
  exact (leads_txPower text _ _).bind fun _ => leads_pure rfl

/-! ### A call -/

/-- A connection that is kept has nothing outstanding. -/
def Settled (t : Talk) : Prop := t = .closed ∨ t = .quiet

/-- The program ends with a settled connection. -/
def Settles {α : Type} (p : RigProgram α) (t : Talk) : Prop :=
  Fallible.Obeys conversation (fun t _ => Settled t) p t

/-- A read on the connection, before which nothing failed: a failure that may pass drops the
connection and starts afresh. -/
theorem settles_readOnConnection {text : PowerText}
    {discarded : RigControlProviderError → RigProgram RigState}
    (h : ∀ error, Settles (discarded error) .closed) :
    Prog.Obeys conversation (fun t _ => Settled t) (do
      match ← (readRigStateOnConnection text).run with
      | .ok state => return .ok state
      | .error error =>
          if error.isRetryable then
            Prog.call RigCmd.take
            (discarded error).run
          else return .error error) .quiet := by
  refine Prog.obeys_bind.mpr (Prog.Obeys.mono ?_ (leads_onConnection text))
  rintro t' (error | state) hresult
  · dsimp only
    split_ifs with hretry
    · refine ⟨?_, fun _ => h error⟩
      rcases t' <;> trivial
    · exact .inr (hresult (by simpa using hretry))
  · exact .inr hresult

theorem settles_onRound {text : PowerText}
    {discarded : RigControlProviderError → RigProgram RigState}
    (h : ∀ error, Settles (discarded error) .closed) {t : Talk} (ht : Settled t) :
    Settles (readRound text discarded) t := by
  rw [readRound, Settles, ask, Fallible.obeys_lift]
  refine ⟨by rcases ht with rfl | rfl <;> trivial, fun connected => ?_⟩
  rcases connected
  · refine ⟨trivial, fun made => ?_⟩
    rcases made with failure | ⟨⟩
    · exact .inl rfl
    · exact settles_readOnConnection h
  · exact settles_readOnConnection h

theorem settles_getSnapshot (text : PowerText) {t : Talk} (ht : Settled t) :
    Settles (getSnapshot text) t := by
  rw [getSnapshot, readRigState]
  refine settles_onRound (fun _ => ?_) ht
  refine settles_onRound (fun error => ?_) (.inl rfl)
  show Settled .closed
  exact .inl rfl

end Leads

/-! ### Runs -/

/-- The connection is where the conversation stands. -/
def Talk.Fits (connection : Option Connection) : Talk → Prop
  | .closed => connection = none
  | .quiet => ∃ c, connection = some c ∧ c.pending = []
  | .first command => ∃ c reply, connection = some c ∧ c.pending = reply.map (Line.mk c.sent)
      ∧ IsReply command reply ∧ ¬ Ambiguous reply
  | .second => ∃ c line, connection = some c ∧ c.pending = [Line.mk c.sent line]
  | .broken => True

/-- What every step of an undisturbed run keeps. -/
structure Session.Talks (s : Session) : Prop where
  reads : ∀ read ∈ s.reads, read.2.command = read.1
  idle : s.call = none → ∃ t, Settled t ∧ t.Fits s.connection
  busy : ∀ p, s.call = some p → ∃ t, t.Fits s.connection ∧ Settles p t

theorem Settled.pending {t : Talk} {connection : Option Connection} (h : Settled t)
    (hfits : t.Fits connection) : ∀ c ∈ connection, c.pending = [] := by
  rintro c hc
  rcases h with rfl | rfl
  · rw [hfits] at hc
    cases hc
  · obtain ⟨c', heq, hpending⟩ := hfits
    rw [heq] at hc
    cases hc
    exact hpending

theorem Talk.Allows.isConnected {t : Talk} (h : t.Allows .isConnected) : Settled t := by
  cases t with
  | closed => exact .inl rfl
  | quiet => exact .inr rfl
  | first _ | second | broken => exact False.elim h

theorem Talk.Allows.connect {t : Talk} (h : t.Allows .connect) : t = .closed := by
  cases t with
  | closed => rfl
  | quiet | first _ | second | broken => exact False.elim h

theorem Talk.Allows.writeAll {t : Talk} {command : RigctldCommand}
    (h : t.Allows (.writeAll command)) : t = .quiet := by
  cases t with
  | quiet => rfl
  | closed | first _ | second | broken => exact False.elim h

theorem Talk.Allows.readLine {t : Talk} (h : t.Allows .readLine) :
    (∃ command, t = .first command) ∨ t = .second := by
  cases t with
  | first command => exact .inl ⟨command, rfl⟩
  | second => exact .inr rfl
  | closed | quiet | broken => exact False.elim h

/-- The first line of a reply, read: the rest of the reply is what comes next. -/
theorem fits_afterLine {c : Connection} {command : RigctldCommand} {reply : List String}
    {line : Line} {rest : List Line} {connection : Option Connection}
    (hlines : reply.map (Line.mk c.sent) = line :: rest) (hreply : IsReply command reply)
    (hclear : ¬ Ambiguous reply) (hconnection : connection = some { c with pending := rest }) :
    ((Talk.first command).afterLine line.text).Fits connection := by
  obtain ⟨text, texts, rfl, rfl, rfl⟩ := List.map_eq_cons_iff.mp hlines
  rcases hreply with hlength | ⟨other, heq, hrprt⟩
  · have hcount : command.replyLines = 1 ∨ command.replyLines = 2 := by
      cases command <;> simp [RigctldCommand.replyLines]
    rcases hcount with hone | htwo
    · rw [afterLine_first_one hone]
      rw [hone] at hlength
      obtain rfl := List.length_eq_zero_iff.mp (Nat.succ.inj hlength)
      exact ⟨_, hconnection, rfl⟩
    · rw [htwo] at hlength
      obtain ⟨second, rfl⟩ := List.length_eq_one_iff.mp (Nat.succ.inj hlength)
      -- a complete reply of two lines goes on
      have hfirst : isRprt text = false := by
        rcases hrprt : isRprt text
        · rfl
        · exact absurd ⟨text, second, rfl, hrprt⟩ hclear
      rw [afterLine_first_two htwo, hfirst]
      exact ⟨_, second, hconnection, rfl⟩
  · cases heq
    have hquiet : (Talk.first command).afterLine text = .quiet := by
      rw [Talk.afterLine, if_neg]
      rintro ⟨-, hno⟩
      rw [hrprt] at hno
      cases hno
    show ((Talk.first command).afterLine text).Fits connection
    rw [hquiet]
    exact ⟨_, hconnection, rfl⟩

/-- What a served command leads to. -/
theorem Talk.Fits.serve {s s' : Session} {c : RigCmd} {r : c.Answer} {reply : List String}
    {t : Talk} (h : t.Fits s.connection) (hallows : t.Allows c) (hs : Serves s c r reply s')
    (hclear : ¬ Ambiguous reply) (hreads : ∀ read ∈ s.reads, read.2.command = read.1) :
    (t.next c r).Fits s'.connection ∧ ∀ read ∈ s'.reads, read.2.command = read.1 := by
  cases hs with
  | isConnected =>
    refine ⟨?_, hreads⟩
    rw [Talk.next]
    rcases hallows.isConnected with rfl | rfl
    · rw [show s.connection = none from h]
      rfl
    · obtain ⟨c, heq, hpending⟩ := h
      rw [heq]
      exact ⟨c, rfl, hpending⟩
  | connect => exact ⟨⟨_, rfl, rfl⟩, hreads⟩
  | refuse =>
    cases hallows.connect
    exact ⟨h, hreads⟩
  | @write connection command _ hconnection hreply =>
    cases hallows.writeAll
    obtain ⟨c, heq, hpending⟩ := h
    rw [hconnection] at heq
    cases heq
    refine ⟨⟨connection.answered reply, reply, rfl, ?_, hreply, hclear⟩, hreads⟩
    rw [Connection.answered, hpending]
    rfl
  | writeFails => exact ⟨trivial, hreads⟩
  | @read connection line rest hconnection hpending =>
    have hread : ∀ c : Connection, s.connection = some c → line.command = c.sent →
        ∀ read ∈ s.reads ++ [(connection.sent, line)], read.2.command = read.1 := by
      intro c heq hsent read hmem
      rw [hconnection] at heq
      cases heq
      rcases List.mem_append.mp hmem with hmem | hmem
      · exact hreads read hmem
      · cases List.mem_singleton.mp hmem
        exact hsent
    rcases hallows.readLine with ⟨command, rfl⟩ | rfl
    · obtain ⟨c, reply, heq, hlines, hreply, hclear⟩ := h
      have hsame := heq
      rw [hconnection] at hsame
      cases hsame
      rw [hpending] at hlines
      refine ⟨fits_afterLine hlines.symm hreply hclear rfl, hread _ heq ?_⟩
      obtain ⟨text, texts, -, hline, -⟩ := List.map_eq_cons_iff.mp hlines.symm
      rw [← hline]
    · obtain ⟨c, text, heq, hlines⟩ := h
      have hsame := heq
      rw [hconnection] at hsame
      cases hsame
      rw [hpending] at hlines
      obtain ⟨rfl, rfl⟩ := List.cons.inj hlines
      exact ⟨⟨_, rfl, rfl⟩, hread _ heq rfl⟩
  | @readFails connection result hfails =>
    cases result with
    | line line => exact absurd rfl (hfails line)
    | timedOut | failed _ | closed => exact ⟨trivial, hreads⟩
  | take => exact ⟨rfl, hreads⟩

theorem Session.Talks.step {text : PowerText} {ms : List SessionMove} {s s' : Session}
    {m : SessionMove} (h : s.Talks) (hm : Undisturbed ms s m) (hs : SessionStep text s m s') :
    s'.Talks := by
  cases hs with
  | start hidle =>
    obtain ⟨t, hsettled, hfits⟩ := h.idle hidle
    refine ⟨h.reads, fun hno => (nomatch hno), fun p hp => ?_⟩
    cases hp
    exact ⟨t, hfits, settles_getSnapshot text hsettled⟩
  | act hcall hserves =>
    obtain ⟨t, hfits, hobeys⟩ := h.busy _ hcall
    obtain ⟨hfits', hreads⟩ := hfits.serve hobeys.1 hserves hm h.reads
    refine ⟨hreads, fun hno => (nomatch hno), fun p hp => ?_⟩
    cases hp
    exact ⟨_, hfits', hobeys.2 _⟩
  | finish hcall =>
    obtain ⟨t, hfits, hsettled⟩ := h.busy _ hcall
    exact ⟨h.reads, fun _ => ⟨t, hsettled, hfits⟩, fun _ hno => nomatch hno⟩
  | @drop c k hcall hawaits =>
    obtain ⟨t, hfits, hobeys⟩ := h.busy _ hcall
    refine ⟨h.reads, fun _ => ⟨t, ?_, hfits⟩, fun _ hno => nomatch hno⟩
    -- where a call waits other than for a line, nothing is outstanding
    cases c with
    | connect => exact .inl hobeys.1.connect
    | writeAll command => exact .inr hobeys.1.writeAll
    | readLine => exact absurd ⟨k, hcall⟩ hm
    | isConnected | take => cases hawaits

theorem Session.Talks.inStep {s : Session} (h : s.Talks) : s.InStep := by
  refine ⟨h.reads, fun hidle => ?_⟩
  obtain ⟨t, hsettled, hfits⟩ := h.idle hidle
  exact hsettled.pending hfits

/-- What an undisturbed run keeps. -/
theorem session_talks {text : PowerText} {ms : List SessionMove} {s : Session}
    (hr : Transition.Run (SessionStep text) Undisturbed .new ms s) : s.Talks := by
  refine hr.invariant (I := fun _ s => s.Talks) ?_ fun h hm hs => h.step hm hs
  exact ⟨fun _ hno => (nomatch hno), fun _ => ⟨.closed, .inl rfl, rfl⟩, fun _ hno => nomatch hno⟩

/-- **The session stays in step** in every run in which no call is dropped while it
waits for a line and no two-line reply begins like an error. -/
theorem session_in_step {text : PowerText} {ms : List SessionMove} {s : Session}
    (hr : Transition.Run (SessionStep text) Undisturbed .new ms s) : s.InStep :=
  (session_talks hr).inStep

/-- The first call that is dropped while it waits for a line gets the session out
of step. -/
theorem drop_in_step_iff {text : PowerText} {ms : List SessionMove} {s s' : Session}
    (hr : Transition.Run (SessionStep text) Undisturbed .new ms s)
    (hs : SessionStep text s .drop s') : s'.InStep ↔ ¬ s.Reading := by
  have htalks := session_talks hr
  constructor
  · rintro hstep ⟨k, hcall⟩
    obtain ⟨t, hfits, hobeys⟩ := htalks.busy _ hcall
    have hempty : ∀ c ∈ s.connection, c.pending = [] := by
      cases hs with
      | drop => exact hstep.2 rfl
    -- a line is outstanding wherever one may be read
    rcases Talk.Allows.readLine hobeys.1 with ⟨command, rfl⟩ | rfl
    · obtain ⟨c, reply, heq, hlines, hreply, -⟩ := hfits
      rw [hempty c heq, eq_comm, List.map_eq_nil_iff] at hlines
      subst hlines
      rcases hreply with hno | ⟨_, hno, -⟩
      · cases command <;> cases hno
      · cases hno
    · obtain ⟨c, line, heq, hlines⟩ := hfits
      rw [hempty c heq] at hlines
      cases hlines
  · intro hm
    have hnext : s'.Talks := @Session.Talks.step text ms s s' .drop htalks hm hs
    exact hnext.inStep

/-! ### Runs that are computed -/

/-- What is to happen next; a write is given the reply. -/
inductive SessionTurn where
  | start
  | act (reply : List String)
  | finish
  | drop

instance (command : RigctldCommand) (reply : List String) : Decidable (IsReply command reply) :=
  match reply with
  | [line] => decidable_of_iff ([line].length = command.replyLines ∨ isRprt line = true) (by
      simp [IsReply])
  | [] => decidable_of_iff (0 = command.replyLines) (by simp [IsReply])
  | first :: second :: rest =>
      decidable_of_iff ((first :: second :: rest).length = command.replyLines) (by simp [IsReply])

/-- Serve a command: connections are made, writes go through, and reads get the
next line. -/
def serveNext (s : Session) (reply : List String) :
    (c : RigCmd) → Option (c.Answer × List String × Session)
  | .isConnected => some (s.connection.isSome, [], s)
  | .connect => some (.ok (), [], { s with connection := some ⟨0, []⟩ })
  | .writeAll command =>
      match s.connection with
      | none => none
      | some c =>
          if IsReply command reply then
            some (.ok (), reply, { s with connection := some (c.answered reply) })
          else none
  | .readLine =>
      match s.connection with
      | none => none
      | some c =>
          match c.pending with
          | [] => none
          | line :: rest =>
              some (.line line.text, [], { s with
                connection := some { c with pending := rest }
                reads := s.reads ++ [(c.sent, line)] })
  | .take => some ((), [], { s with connection := none })

theorem serves_of_serveNext {s s' : Session} {c : RigCmd} {r : c.Answer}
    {reply reply' : List String} (h : serveNext s reply c = some (r, reply', s')) :
    Serves s c r reply' s' := by
  cases c with
  | isConnected | connect | take =>
    cases h
    constructor
  | writeAll command =>
    rw [serveNext] at h
    split at h
    · cases h
    · rename_i connection hconnection
      split_ifs at h with hreply
      cases h
      exact .write hconnection hreply
  | readLine =>
    rw [serveNext] at h
    split at h
    · cases h
    · rename_i connection hconnection
      split at h
      · cases h
      · rename_i line rest hpending
        cases h
        exact .read hconnection hpending

/-- Let it happen, when it can. -/
def takeTurn (text : PowerText) (s : Session) : SessionTurn → Option (SessionMove × Session)
  | .start =>
      match s.call with
      | none => some (.start, { s with call := some (getSnapshot text) })
      | some _ => none
  | .act reply =>
      match s.call with
      | some (Prog.cmd c k) =>
          (serveNext s reply c).map fun o =>
            (.act ⟨c, o.1⟩ o.2.1, { o.2.2 with call := some (k o.1) })
      | _ => none
  | .finish =>
      match s.call with
      | some (Prog.pure _) => some (.finish, { s with call := none })
      | _ => none
  | .drop =>
      match s.call with
      | some (Prog.cmd c _) => if c.awaits then some (.drop, { s with call := none }) else none
      | _ => none

theorem sessionStep_of_takeTurn {text : PowerText} (s : Session) (turn : SessionTurn)
    (m : SessionMove) (s' : Session) (h : takeTurn text s turn = some (m, s')) :
    SessionStep text s m s' := by
  cases turn with
  | start =>
    rw [takeTurn] at h
    split at h
    · rename_i hidle
      cases h
      exact .start hidle
    · cases h
  | act reply =>
    rw [takeTurn] at h
    split at h
    · rename_i c k hcall
      obtain ⟨⟨r, reply', s''⟩, hserve, heq⟩ := Option.map_eq_some_iff.mp h
      cases heq
      exact .act hcall (serves_of_serveNext hserve)
    · cases h
  | finish =>
    rw [takeTurn] at h
    split at h
    · rename_i result hcall
      cases h
      exact .finish hcall
    · cases h
  | drop =>
    rw [takeTurn] at h
    split at h
    · rename_i c k hcall
      split_ifs at h with hawaits
      cases h
      exact .drop hcall hawaits
    · cases h

instance (s : Session) : Decidable s.Reading :=
  match h : s.call with
  | some (Prog.cmd .readLine k) => .isTrue ⟨k, h⟩
  | some (Prog.cmd .isConnected _) | some (Prog.cmd .connect _) | some (Prog.cmd (.writeAll _) _)
  | some (Prog.cmd .take _) | some (Prog.pure _) | none =>
      .isFalse fun ⟨_, hno⟩ => by
        rw [h] at hno
        cases hno

instance (reply : List String) : Decidable (Ambiguous reply) :=
  match reply with
  | [first, second] => decidable_of_iff (isRprt first = true) (by simp [Ambiguous])
  | [] | [_] | _ :: _ :: _ :: _ => .isFalse (by simp [Ambiguous])

instance (ms : List SessionMove) (s : Session) : (m : SessionMove) →
    Decidable (Undisturbed ms s m)
  | .drop => inferInstanceAs (Decidable (¬ s.Reading))
  | .act _ reply => inferInstanceAs (Decidable (¬ Ambiguous reply))
  | .start | .finish => .isTrue trivial

/-- No number is a power level. -/
def noPower : PowerText := ⟨fun _ => none, fun _ => "", fun _ => ⟨0⟩⟩

/-- A snapshot of a rig that has no split and reports no power. -/
def plainSnapshot : List SessionTurn :=
  [.start, .act [], .act [], .act ["14074000\n"], .act [], .act ["USB\n", "2400\n"], .act [],
    .act [], .act ["RPRT -11\n"], .act [], .act ["RPRT -11\n"], .act [], .finish]

theorem session_in_step_plain :
    ((Transition.schedule (takeTurn noPower) plainSnapshot .new).2.reads.map (·.1)
      = [1, 2, 2, 3, 4])
      ∧ (Transition.schedule (takeTurn noPower) plainSnapshot .new).2.InStep :=
  ⟨by decide +kernel, session_in_step
    (Transition.schedule_run sessionStep_of_takeTurn (by decide +kernel))⟩

/-- A call is dropped while it waits for the frequency, and the next one asks
again. -/
def droppedSnapshot : List SessionTurn :=
  [.start, .act [], .act [], .act ["14074000\n"], .drop, .start, .act [], .act ["7074000\n"],
    .act []]

/-- The first line it reads is the reply to the command of the dropped call. -/
theorem dropped_call_shifts_replies :
    ¬ ∀ (text : PowerText) (ms : List SessionMove) (s : Session),
      Transition.Run (SessionStep text) (fun _ _ _ => True) .new ms s →
        ∀ read ∈ s.reads, read.2.command = read.1 := by
  intro hall
  have hrun : Transition.Run (SessionStep noPower) (fun _ _ _ => True) .new
      (Transition.schedule (takeTurn noPower) droppedSnapshot .new).1
      (Transition.schedule (takeTurn noPower) droppedSnapshot .new).2 :=
    Transition.schedule_run sessionStep_of_takeTurn (by decide +kernel)
  have hstep := hall noPower _ _ hrun
  revert hstep
  decide +kernel

end QsoRipper.Rig
