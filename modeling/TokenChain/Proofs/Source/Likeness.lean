import Mathlib.Data.List.Forall2
import Mathlib.Data.Option.Basic
import TokenChain.Chain.Member
import TokenChain.Proofs.Endpoint.Reading
import TokenChain.Proofs.Task.Likeness

/-! # Sources that differ in their secrets

What is secret: the token in a response that grants one, the token that a developer tool prints, the
token that was handed over, the secret of a client, the assertion in a file. Surroundings are alike
if they are the same but for the secrets that are still to come and for the bodies of the messages
that have been sent (`Surroundings.Alike`); members, tokens and messages are alike if they are the
same without their secrets (`redacted`).

Alike members do alike in alike surroundings (`Member.Alike.source`): what they write to the log,
how long they wait, what they ask for and how they fail does not depend on a secret. -/

namespace TokenChain

open List (Forall₂)
open TokenChain.Task TokenChain.Json

/-! ### Without secrets -/

/-- A token without its secret. -/
def Token.redacted (t : Token) : Token := { t with secret := "" }

/-- A message without its body. -/
def Message.redacted (m : Message) : Message := { m with body := m.body.map fun _ => "" }

/-- A client without its secret. -/
def ClientSecret.redacted (c : ClientSecret) : ClientSecret := { c with secret := "" }

/-- A member without its secret. -/
def Member.redacted : Member → Member
  | environment s => environment { s with client := s.client.map ClientSecret.redacted }
  | explicit e => explicit { e with token := e.token.redacted }
  | m => m

/-- Two tokens that differ in their secrets at most. -/
def Token.Alike (t t' : Token) : Prop := t.redacted = t'.redacted

theorem Token.Alike.expiresAt {t t' : Token} (h : t.Alike t') : t.expiresAt = t'.expiresAt :=
  (congrArg Token.expiresAt h :)

theorem Token.Alike.scopes {t t' : Token} (h : t.Alike t') : t.scopes = t'.scopes :=
  (congrArg Token.scopes h :)

theorem Token.Alike.description {t t' : Token} (h : t.Alike t') :
    t.description = t'.description := by
  have expiresAt := h.expiresAt
  have same := h.scopes
  obtain ⟨secret, expiry, scopes⟩ := t
  cases expiresAt
  cases same
  rfl

/-- Two members that differ in their secrets at most. -/
def Member.Alike (m m' : Member) : Prop := m.redacted = m'.redacted

/-- Two answers: the same error, or tokens that differ in their secrets at most. -/
abbrev AnswerAlike : Except Error Token → Except Error Token → Prop := ResultAlike Token.Alike

/-! ### Secrets to come -/

/-- Two bodies of responses that are the same, or grant tokens on the same terms. -/
inductive ContentAlike (status : Nat) :
    Except String (List UInt8) → Except String (List UInt8) → Prop
  | same (content : Except String (List UInt8)) : ContentAlike status content content
  | grants {bytes bytes' : List UInt8} {g g' : Endpoint.Grant}
      (success : Endpoint.isSuccess status = true) (reads : Endpoint.grant? bytes = some g)
      (reads' : Endpoint.grant? bytes' = some g')
      (terms : { g with accessToken := "" } = { g' with accessToken := "" }) :
      ContentAlike status (.ok bytes) (.ok bytes')

/-- Two answers that are the same but for the bodies of responses. -/
inductive Answer.Alike {β : Type} (B : Nat → β → β → Prop) : Answer β → Answer β → Prop
  | response {status : Nat} {body body' : β} (bodies : B status body body') :
      Alike B (.response status body) (.response status body')
  | unreachable (text : String) : Alike B (.unreachable text) (.unreachable text)
  | timedOut (text : String) : Alike B (.timedOut text) (.timedOut text)

/-- Two outcomes of a message with alike bodies. -/
abbrev Outcome.Alike : Outcome → Outcome → Prop := Answer.Alike ContentAlike

/-- Two heads whose bodies take the same time and are alike. -/
abbrev Head.Alike : Head → Head → Prop :=
  Answer.Alike fun status => Delayed.Alike (ContentAlike status)

/-- Two replies that take the same time. -/
abbrev Reply.Alike : Reply → Reply → Prop := Delayed.Alike Head.Alike

/-- Two wires on which the same has been sent, but for the bodies, and alike replies come. -/
structure Wire.Alike (w w' : Wire) : Prop where
  replies : Forall₂ Reply.Alike w.replies w'.replies
  sent : w.sent.map Message.redacted = w'.sent.map Message.redacted

/-- Two outputs of a tool that are the same, or print tokens on the same terms. -/
inductive Tool.Prints : Tool → List UInt8 → List UInt8 → Prop
  | same (tool : Tool) (out : List UInt8) : Prints tool out out
  | az {out out' : List UInt8} {t t' : ToolSource.AzToken}
      (reads : (Document.read? out).bind ToolSource.AzToken.ofDocument? = some t)
      (reads' : (Document.read? out').bind ToolSource.AzToken.ofDocument? = some t')
      (terms : { t with accessToken := "" } = { t' with accessToken := "" }) : Prints .az out out'
  | azd {out out' : List UInt8} {t t' : ToolSource.AzdToken}
      (reads : (Document.read? out).bind ToolSource.AzdToken.ofDocument? = some t)
      (reads' : (Document.read? out').bind ToolSource.AzdToken.ofDocument? = some t')
      (terms : { t with token := "" } = { t' with token := "" }) : Prints .azd out out'

/-- Two outcomes of a run that are the same, or print tokens on the same terms. -/
inductive ToolOutcome.Alike (tool : Tool) : ToolOutcome → ToolOutcome → Prop
  | same (o : ToolOutcome) : Alike tool o o
  | prints {status : ExitStatus} {out out' err : List UInt8} (success : status.isSuccess = true)
      (printed : tool.Prints out out') : Alike tool (.exited status out err)
        (.exited status out' err)

/-- The same runs, and alike outcomes to come. -/
structure Tools.Alike (t t' : Tools) : Prop where
  az : Forall₂ (Option.Rel (ToolOutcome.Alike .az)) t.az t'.az
  azd : Forall₂ (Option.Rel (ToolOutcome.Alike .azd)) t.azd t'.azd
  begun : t.begun = t'.begun
  listed : t.listed = t'.listed

/-- Two files that are the same, or that both hold an assertion. -/
inductive FileNode.Alike : FileNode → FileNode → Prop
  | same (n : FileNode) : Alike n n
  | assertion {bytes bytes' : List UInt8} {text text' : String}
      (reads : Text.Utf8.decode? bytes = some text) (reads' : Text.Utf8.decode? bytes' = some text')
      (there : Text.allBlank text = false) (there' : Text.allBlank text' = false) :
      Alike (.file bytes) (.file bytes')

/-- The same paths with alike files. -/
def Files.Alike (f f' : Files) : Prop := Forall₂ (fun p p' => p.1 = p'.1 ∧ p.2.Alike p'.2) f f'

/-- Two cues that are the same but for the token. -/
inductive Cue.Alike : Cue → Cue → Prop
  | same (c : Cue) : Alike c c
  | token (secret secret' : String) (lifetime : Int) :
      Alike (.token secret lifetime) (.token secret' lifetime)

/-- **Surroundings that are the same but for secrets.** -/
structure Surroundings.Alike (s s' : Surroundings) : Prop where
  zone : s.zone = s'.zone
  wire : s.wire.Alike s'.wire
  files : s.files.Alike s'.files
  tools : s.tools.Alike s'.tools
  gates : s.gates = s'.gates
  rehearsals :
      ∀ i, Forall₂ (fun c c' => c.1 = c'.1 ∧ c.2.Alike c'.2) (s.rehearsals i) (s'.rehearsals i)

/-! ### The wire -/

theorem Task.alike_refl {σ α : Type} {A : α → α → Prop} (refl : ∀ a, A a a) (t : Task σ α) :
    t.Alike Eq A t := by
  induction t with
  | done a => exact .done (refl a)
  | crash => exact .crash
  | look k ih => exact .look ih
  | note n k ih => exact .note ih
  | step f k ih => exact .step (fun h => congrArg f h) fun h => h ▸ ih _
  | wait v k ih =>
    exact .wait ⟨fun h => congrArg v.ready h, rfl, rfl, rfl, fun h => congrArg v.abandon h⟩ ih

theorem Wire.Alike.nextReply {w w' : Wire} (h : w.Alike w') :
    Reply.Alike w.nextReply w'.nextReply := by
  obtain ⟨replies, sent⟩ := w
  obtain ⟨replies', sent'⟩ := w'
  cases h.replies with
  | nil => exact ⟨rfl, .some (.unreachable _)⟩
  | cons first _ => exact first

theorem Wire.Alike.record {w w' : Wire} (h : w.Alike w') {m m' : Message}
    (messages : m.redacted = m'.redacted) : (w.record m).Alike (w'.record m') where
  replies := List.forall₂_drop 1 h.replies
  sent := by rw [Wire.record, Wire.record, List.map_append, List.map_append, h.sent,
    List.map_singleton, messages]; rfl

theorem Head.Alike.rest {head head' : Head} (h : Head.Alike head head') :
    Delayed.Alike Outcome.Alike head.rest head'.rest := by
  cases h with
  | @response status body body' bodies =>
    obtain ⟨delay, value⟩ := body
    obtain ⟨delay', value'⟩ := body'
    obtain ⟨rfl, values⟩ := bodies
    cases values with
    | none => exact ⟨rfl, .none⟩
    | some alike => exact ⟨rfl, .some (.response alike)⟩
  | unreachable text => exact ⟨rfl, .some (.unreachable text)⟩
  | timedOut text => exact ⟨rfl, .some (.timedOut text)⟩

theorem Wire.alike_receive {r r' : Reply} (h : Reply.Alike r r') :
    (receive r).Alike Wire.Alike Outcome.Alike (receive r') := by
  rw [receive, receive, h.delay]
  exact .look fun sent => (alike_await h sent.now).bind fun heads =>
    alike_await (Head.Alike.rest heads) _

theorem Wire.alike_exchange {m m' : Message} (h : m.redacted = m'.redacted) :
    (exchange m).Alike Wire.Alike Outcome.Alike (exchange m') := by
  have headers : m.headers = m'.headers := (congrArg Message.headers h :)
  rw [exchange, exchange, isSendable, isSendable, headers]
  split
  · exact .step (fun wires => wires.record h) fun wires => alike_receive wires.nextReply
  · exact .done (.unreachable _)

theorem Surroundings.alike_onWire {α : Type} {A : α → α → Prop} {t t' : Task Wire α}
    (h : t.Alike Wire.Alike A t') : (onWire t).Alike Surroundings.Alike A (onWire t') :=
  h.zoom (fun around => around.wire) fun wires around => { around with wire := wires }

namespace Endpoint

/-- Two grants on the same terms expire together, or both break the task down. -/
theorem alike_grant {g g' : Grant}
    (terms : { g with accessToken := "" } = { g' with accessToken := "" })
    (scopes : List String) (m : Moment) : (match g.expiresAt? m.now with
      | none => .crash
      | some expiry =>
        .done (.ok ⟨g.accessToken, expiry, scopes⟩) : Task Surroundings (Except Error Token)).Alike
        Surroundings.Alike AnswerAlike
      (match g'.expiresAt? m.now with
      | none => .crash
      | some expiry => .done (.ok ⟨g'.accessToken, expiry, scopes⟩)) := by
  have expiry : g.expiresAt? m.now = g'.expiresAt? m.now :=
    (congrArg (fun g : Grant => g.expiresAt? m.now) terms :)
  rw [expiry]
  split
  · exact .crash
  · exact .done (.ok rfl)

theorem alike_readToken (credential : String) (family : Family)
    (scopes : List String) {status : Nat} {body body' : Except String (List UInt8)}
    (h : ContentAlike status body body') :
    (readToken credential family scopes status body : Task Surroundings _).Alike
      Surroundings.Alike AnswerAlike (readToken credential family scopes status body') := by
  cases h with
  | same =>
    cases body with
    | error e => exact .done (.error _)
    | ok bytes =>
      dsimp only [readToken]
      split
      · split
        · exact .done (.error _)
        · exact .look fun m => alike_grant rfl scopes m
      · exact .done (.error _)
  | grants success reads reads' terms =>
    rw [grant?] at reads reads'
    simp only [readToken, if_pos success, reads, reads']
    exact .look fun m => alike_grant terms scopes m

theorem alike_call (credential : String) (family : Family) (scopes : List String) {m m' : Message}
    (h : m.redacted = m'.redacted) :
    (call credential family scopes m).Alike Surroundings.Alike AnswerAlike
      (call credential family scopes m') := by
  refine (Surroundings.alike_onWire (Wire.alike_exchange h)).bind fun outcomes => ?_
  cases outcomes with
  | response bodies => exact alike_readToken _ _ _ bodies
  | unreachable text => exact .done (.error _)
  | timedOut text => exact .done (.error _)

theorem alike_authorityToken (credential agent : String) (authority : Url) (tenant : String)
    (proof proof' : List (String × String)) (scopes : List String) :
    (authorityToken credential agent authority tenant proof scopes).Alike
      Surroundings.Alike AnswerAlike
        (authorityToken credential agent authority tenant proof' scopes) := by
  rw [authorityToken, authorityToken]
  split
  · exact .done (.error _)
  · exact alike_call _ _ _ rfl

end Endpoint

/-- Two sources under one name that do alike. -/
structure Source.Alike {ρ : Type} (R : ρ → ρ → Prop) (x x' : Source ρ) : Prop where
  name : x.name = x'.name
  kind : x.kind = x'.kind
  getToken : ∀ r, (x.getToken r).Alike R AnswerAlike (x'.getToken r)

theorem Source.report_eq {credential : String} {elapsed : Duration} {x y : Except Error Token}
    (h : AnswerAlike x y) : report credential elapsed x = report credential elapsed y := by
  cases h with
  | error e => rfl
  | ok alike => rw [report, report, alike.scopes, alike.expiresAt]

theorem Source.alike_reported (credential : String)
    {work work' : Task Surroundings (Except Error Token)}
    (h : work.Alike Surroundings.Alike AnswerAlike work') :
    (reported credential work).Alike Surroundings.Alike AnswerAlike
      (reported credential work') := by
  refine .look fun start => h.bind fun answers => .look fun stop => ?_
  rw [Source.report_eq answers]
  exact .note (.done answers)

/-! ### Files -/

theorem Files.Alike.lookup {f f' : Files} (h : f.Alike f') (path : List String) :
    Option.Rel FileNode.Alike (f.lookup path) (f'.lookup path) := by
  induction h with
  | nil => exact .none
  | @cons p p' _ _ first _ ih =>
    obtain ⟨k, n⟩ := p
    obtain ⟨k', n'⟩ := p'
    obtain ⟨rfl, nodes⟩ := first
    rw [List.lookup_cons, List.lookup_cons]
    cases path == k with
    | true => exact .some nodes
    | false => exact ih

theorem Files.Alike.isNone_lookup {f f' : Files} (h : f.Alike f') (path : List String) :
    (f.lookup path).isNone = (f'.lookup path).isNone := by
  have nodes := h.lookup path
  generalize f.lookup path = n at nodes
  generalize f'.lookup path = n' at nodes
  cases nodes <;> rfl

theorem Files.Alike.set {f f' : Files} (h : f.Alike f') (path : String)
    {node node' : Option FileNode} (nodes : Option.Rel FileNode.Alike node node') :
    (f.set path node).Alike (f'.set path node') := by
  have rest : Files.Alike (f.filter fun p => !(placeOf path).isPrefixOf p.1)
      (f'.filter fun p => !(placeOf path).isPrefixOf p.1) :=
    List.rel_filter (fun p p' same => by simp only [same.1]) h
  cases nodes with
  | none => exact rest
  | some alike =>
    dsimp only [Files.set]
    rw [funext fun dir => rest.isNone_lookup dir]
    refine List.rel_append
      (List.rel_append rest (List.forall₂_same.mpr fun p _ => ⟨rfl, .same _⟩)) ?_
    exact .cons ⟨rfl, alike⟩ .nil

/-- Two paths that cannot be followed for the same reason, or lead to alike files. -/
inductive Found : Except FileError FileNode → Except FileError FileNode → Prop
  | error (e : FileError) : Found (.error e) (.error e)
  | ok {n n' : FileNode} (alike : n.Alike n') : Found (.ok n) (.ok n')

theorem Files.Alike.follow {f f' : Files} (h : f.Alike f') (path : List String)
    (dir : List String) : Found (f.follow dir path) (f'.follow dir path) := by
  induction path generalizing dir with
  | nil => exact .ok (.same _)
  | cons part rest ih =>
    rw [Files.follow, Files.follow]
    split
    · exact ih dir
    · split
      · exact ih dir.dropLast
      · split
        · exact .error _
        · have nodes := h.lookup (dir ++ [part])
          generalize f.lookup (dir ++ [part]) = n at nodes
          generalize f'.lookup (dir ++ [part]) = n' at nodes
          cases nodes with
          | none => exact .error _
          | @some n _ alike =>
            cases alike with
            | same =>
              cases n with
              | directory => exact ih _
              | file content =>
                dsimp only
                split
                · exact .ok (.same _)
                · exact .error _
            | assertion reads reads' there there' =>
              dsimp only
              split
              · exact .ok (.assertion reads reads' there there')
              · exact .error _

theorem Files.Alike.read {f f' : Files} (h : f.Alike f') (path : String) :
    f.read path = f'.read path ∨ ∃ bytes bytes', f.read path = .ok bytes ∧
      f'.read path = .ok bytes' ∧ FileNode.Alike (.file bytes) (.file bytes') := by
  rw [Files.read, Files.read]
  split
  · exact .inl rfl
  · split
    · exact .inl rfl
    · split
      · exact .inl rfl
      · dsimp only
        have found :=
          h.follow (Files.parts path) (if path.toList.head? == some '/' then []
            else Files.workingDirectory)
        revert found
        generalize f.follow _ _ = x
        generalize f'.follow _ _ = x'
        intro found
        cases found with
        | error e => exact .inl rfl
        | ok alike =>
          cases alike with
          | same n => exact .inl rfl
          | assertion reads reads' there there' =>
            exact .inr ⟨_, _, rfl, rfl, .assertion reads reads' there there'⟩

theorem WorkloadSource.alike_assertion {f f' : Files} (h : f.Alike f') (path : String) :
    ResultAlike (fun _ _ => True) (assertion f path) (assertion f' path) := by
  rw [assertion, assertion, readText, readText]
  rcases h.read path with same | ⟨bytes, bytes', read, read', alike⟩
  · rw [same]
    exact .refl (fun _ => trivial) _
  · rw [read, read']
    cases alike with
    | same => exact .refl (fun _ => trivial) _
    | assertion reads reads' there there' =>
      dsimp only
      rw [reads, reads']
      dsimp only
      rw [there, there']
      exact .ok trivial

/-! ### Tools -/

theorem Tools.Alike.outcomes {t t' : Tools} (h : t.Alike t') (tool : Tool) :
    Forall₂ (Option.Rel (ToolOutcome.Alike tool)) (t.outcomes tool) (t'.outcomes tool) := by
  cases tool with
  | az => exact h.az
  | azd => exact h.azd

theorem Tools.Alike.nextOutcome {t t' : Tools} (h : t.Alike t') (tool : Tool) :
    Option.Rel (ToolOutcome.Alike tool) (t.nextOutcome tool) (t'.nextOutcome tool) := by
  have outcomes := h.outcomes tool
  rw [Tools.nextOutcome, Tools.nextOutcome]
  generalize t.outcomes tool = l at outcomes
  generalize t'.outcomes tool = l' at outcomes
  cases outcomes with
  | nil => exact .some (.same _)
  | cons first _ => exact first

theorem Tools.Alike.willStart {t t' : Tools} (h : t.Alike t') (tool : Tool) :
    t.willStart tool = t'.willStart tool := by
  have outcomes := h.nextOutcome tool
  rw [Tools.willStart, Tools.willStart]
  generalize t.nextOutcome tool = o at outcomes
  generalize t'.nextOutcome tool = o' at outcomes
  cases outcomes with
  | none => rfl
  | some alike => cases alike <;> rfl

theorem Tools.Alike.use {t t' : Tools} (h : t.Alike t') (tool : Tool) :
    (t.use tool).Alike (t'.use tool) := by
  cases tool with
  | az => exact { h with az := List.forall₂_drop 1 h.az }
  | azd => exact { h with azd := List.forall₂_drop 1 h.azd }

theorem Tools.Alike.start {t t' : Tools} (h : t.Alike t') (tool : Tool)
    (key : CancelKey) (program : String) (args : List String) :
    (start tool key program args t).Alike (start tool key program args t') := by
  rw [Tools.start, Tools.start, h.willStart, h.begun]
  exact { h.use tool with begun := rfl }

theorem Tools.Alike.close {t t' : Tools} (h : t.Alike t') (key : CancelKey) (timedOut : Bool) :
    (close key timedOut t).Alike (close key timedOut t') := by
  rw [Tools.close, Tools.close, h.begun, h.listed]
  exact { h with begun := rfl, listed := rfl }

theorem Tools.alike_run (tool : Tool) (key : CancelKey) (program : String) (args : List String) :
    (run tool key program args).Alike Tools.Alike (ToolOutcome.Alike tool)
      (run tool key program args) := by
  refine .step (fun h => h.start tool key program args) fun {t t'} h => ?_
  have outcomes := h.nextOutcome tool
  generalize t.nextOutcome tool = o at outcomes
  generalize t'.nextOutcome tool = o' at outcomes
  cases outcomes with
  | none => exact .wait (.plain ..) fun _ => .crash
  | some alike => exact .done alike

theorem Surroundings.alike_onTools {α : Type} {A : α → α → Prop} {t t' : Task Tools α}
    (h : t.Alike Tools.Alike A t') : (onTools t).Alike Surroundings.Alike A (onTools t') :=
  h.zoom (fun around => around.tools) fun tools around => { around with tools }

namespace ToolSource

theorem alike_result (s : ToolSource) {o o' : ToolOutcome} (h : o.Alike s.tool o') :
    ResultAlike s.tool.Prints (s.result o) (s.result o') := by
  cases h with
  | same o => exact .refl (.same _) _
  | prints success printed =>
    rw [result, result, if_pos success, if_pos success]
    exact .ok printed

theorem alike_readOutput {tool : Tool} (zone : Zone) {out out' : List UInt8}
    (h : tool.Prints out out') :
    ResultAlike (fun x x' => x.2 = x'.2) (readOutput tool zone out)
      (readOutput tool zone out') := by
  cases h with
  | same =>
    exact ResultAlike.refl (A := fun x x' : String × Timestamp => x.2 = x'.2) (fun _ => rfl) _
  | @az _ _ t t' reads reads' terms =>
    have expiry : t.expiresAt zone = t'.expiresAt zone := by
      rw [AzToken.expiresAt, AzToken.expiresAt, (congrArg AzToken.expiry terms :),
        (congrArg AzToken.localExpiry terms :)]
    rw [readOutput, readOutput, reads, reads']
    dsimp only
    rw [expiry]
    cases t'.expiresAt zone with
    | error e => exact .error e
    | ok expiry => exact .ok rfl
  | @azd _ _ t t' reads reads' terms =>
    have expiry : t.expiresAt = t'.expiresAt := by
      rw [AzdToken.expiresAt, AzdToken.expiresAt, (congrArg AzdToken.expiry terms :)]
    rw [readOutput, readOutput, reads, reads']
    dsimp only
    rw [expiry]
    cases t'.expiresAt with
    | error e => exact .error e
    | ok expiry => exact .ok rfl

theorem alike_fetch (s : ToolSource) (r : Request) :
    (s.fetch r).Alike Surroundings.Alike AnswerAlike (s.fetch r) := by
  rw [fetch]
  split
  · exact .done (.error _)
  · have runs : (s.run r ‹_›).Alike Surroundings.Alike (ResultAlike s.tool.Prints) (s.run r ‹_›) :=
      ((Surroundings.alike_onTools (Tools.alike_run ..)).bind fun outcomes =>
        .done (s.alike_result outcomes)).within ..
    refine runs.bind fun results => ?_
    cases results with
    | error e => exact .done (.error e)
    | ok printed =>
      refine .step (fun around => around) fun {around around'} h => ?_
      rw [h.zone]
      have tokens := alike_readOutput around'.zone printed
      generalize readOutput s.tool around'.zone _ = x at tokens
      generalize readOutput s.tool around'.zone _ = x' at tokens
      cases tokens with
      | error e => exact .done (.error e)
      | @ok a b same =>
        obtain ⟨secret, expiry⟩ := a
        obtain ⟨secret', expiry'⟩ := b
        cases same
        exact .done (.ok rfl)

theorem alike_getToken (s : ToolSource) (r : Request) :
    (s.source.getToken r).Alike Surroundings.Alike AnswerAlike (s.source.getToken r) := by
  refine (Source.alike_reported _ (s.alike_fetch r)).bind fun {x y} answers => ?_
  -- a run is listed without its arguments only if the call ran out of time, which both calls did or
  -- none
  have same : ranOut x = ranOut y := by cases answers <;> rfl
  rw [same]
  exact (Surroundings.alike_onTools (.step (fun tools => tools.close ..) fun _ => .done rfl)).bind
    fun _ => .done answers

end ToolSource

/-! ### The other sources -/

namespace EnvironmentSource

/-- The source with another client secret. -/
def withSecret (s : EnvironmentSource) (secret : String) : EnvironmentSource :=
  { s with client := s.client.map fun c => { c with secret } }

theorem exists_withSecret {s s' : EnvironmentSource}
    (h : (Member.environment s).Alike (.environment s')) : ∃ secret, s' = s.withSecret secret := by
  obtain ⟨client, authority, retry, agent⟩ := s
  obtain ⟨client', authority', retry', agent'⟩ := s'
  simp only [Member.Alike, Member.redacted, Member.environment.injEq,
    EnvironmentSource.mk.injEq] at h
  obtain ⟨clients, rfl, rfl, rfl⟩ := h
  cases client with
  | error missing =>
    cases client' with
    | error missing' =>
      cases clients
      exact ⟨"", rfl⟩
    | ok c' => cases clients
  | ok c =>
    cases client' with
    | error missing' => cases clients
    | ok c' =>
      obtain ⟨tenant, id, secret⟩ := c
      obtain ⟨tenant', id', secret'⟩ := c'
      cases clients
      exact ⟨secret', rfl⟩

theorem alike_withSecret (s : EnvironmentSource) (secret : String) (r : Request) :
    (s.source.getToken r).Alike Surroundings.Alike AnswerAlike
      ((s.withSecret secret).source.getToken r) := by
  refine Source.alike_reported _ ?_
  rw [fetch, fetch, withSecret]
  cases s.client with
  | error missing => exact .done (.error _)
  | ok c => exact .execute _ _ _ fun _ => Endpoint.alike_authorityToken ..

theorem isConfigured_withSecret (s : EnvironmentSource) (secret : String) :
    (s.withSecret secret).isConfigured = s.isConfigured := by
  rw [isConfigured, isConfigured, withSecret]
  cases s.client <;> rfl

theorem description_withSecret (s : EnvironmentSource) (secret : String) :
    (s.withSecret secret).description = s.description := by
  obtain ⟨client, authority, retry, agent⟩ := s
  cases client <;> rfl

end EnvironmentSource

theorem WorkloadSource.alike_getToken (s : WorkloadSource) (r : Request) :
    (s.source.getToken r).Alike Surroundings.Alike AnswerAlike (s.source.getToken r) := by
  refine Source.alike_reported _ ?_
  rw [fetch]
  split
  · exact .done (.error _)
  · rename_i f _
    refine .step (fun around => around) fun {around around'} h => ?_
    have proofs := alike_assertion h.files f.tokenFile
    generalize assertion around.files f.tokenFile = x at proofs
    generalize assertion around'.files f.tokenFile = x' at proofs
    cases proofs with
    | error e => exact .done (.error e)
    | ok => exact .execute _ _ _ fun _ => Endpoint.alike_authorityToken ..

theorem Surroundings.alike_onGate {α : Type} (i : Nat) (t : Task ProbeState α) :
    (onGate i t).Alike Surroundings.Alike Eq (onGate i t) :=
  (Task.alike_refl (fun _ => rfl) t).zoom (fun around => by rw [around.gates])
      fun {_ _ a b} states around => by
    subst states
    exact { around with gates := by rw [around.gates] }

theorem Surroundings.Alike.setGate {s s' : Surroundings} (h : s.Alike s') (i : Nat)
    (f : ProbeState → ProbeState) : (s.setGate i f).Alike (s'.setGate i f) :=
  { h with gates := by rw [Surroundings.setGate, Surroundings.setGate, h.gates] }

namespace ManagedIdentitySource

theorem alike_ask (s : ManagedIdentitySource) (resource : String) (r : Request) :
    (s.ask resource r).Alike Surroundings.Alike AnswerAlike (s.ask resource r) :=
  Endpoint.alike_call _ _ _ rfl

theorem alike_probe (s : ManagedIdentitySource) (resource : String) (r : Request) :
    (s.probe resource r).Alike Surroundings.Alike AnswerAlike (s.probe resource r) := by
  refine (((s.alike_ask resource r).within ..).onLoss fun around => around.setGate ..).bind
    fun {x y} answers => ?_
  -- the gate keeps the message of an error, but nothing of a token
  have same : outcome x = outcome y := by cases answers <;> rfl
  rw [same]
  refine .step (fun around => around.setGate ..) fun _ => .done ?_
  cases answers with
  | error e => exact ResultAlike.refl (A := Token.Alike) (fun _ => rfl) _
  | ok alike => exact .ok alike

theorem alike_fetchImds (s : ManagedIdentitySource) (resource : String) (r : Request) :
    (s.fetchImds resource r).Alike Surroundings.Alike AnswerAlike (s.fetchImds resource r) := by
  refine (Surroundings.alike_onGate s.gate _).bind fun {x y} same => ?_
  subst same
  split
  · exact .done (.error _)
  · exact .done (.error _)
  · exact s.alike_probe resource r
  · exact .execute _ _ _ fun _ => s.alike_ask resource r

theorem alike_getToken (s : ManagedIdentitySource) (r : Request) :
    (s.source.getToken r).Alike Surroundings.Alike AnswerAlike (s.source.getToken r) := by
  refine Source.alike_reported _ ?_
  rw [fetch]
  split
  · exact .done (.error _)
  · split
    · exact s.alike_fetchImds _ r
    · exact .execute _ _ _ fun _ => s.alike_ask _ r

end ManagedIdentitySource

theorem ExplicitToken.alike_getToken {e e' : ExplicitToken}
    (h : (Member.explicit e).Alike (.explicit e')) (r : Request) :
    ((e.source : Source Surroundings).getToken r).Alike Surroundings.Alike AnswerAlike
      (e'.source.getToken r) := by
  obtain ⟨name, secret, expiry, scopes⟩ := e
  obtain ⟨name', secret', expiry', scopes'⟩ := e'
  cases h
  refine .look fun m => ?_
  have answers :
      AnswerAlike (answer ⟨name, secret, expiry, scopes⟩ r m.now)
        (answer ⟨name, secret', expiry, scopes⟩ r m.now) := by
    rw [answer, answer]
    show AnswerAlike (if expiry.reachedAt m.now then _ else _)
      (if expiry.reachedAt m.now then _ else _)
    split
    · exact .error _
    · exact .ok rfl
  rw [Source.report_eq answers]
  exact .note (.done answers)

namespace RehearsedSource

theorem alike_play (s : RehearsedSource) (r : Request) (delay : Duration)
    {c c' : Cue} (h : c.Alike c') :
    (s.play r delay c).Alike Surroundings.Alike AnswerAlike (s.play r delay c') := by
  have performs : (perform r c).Alike Surroundings.Alike AnswerAlike (perform r c') := by
    have tokens :
        ∀ secret secret' lifetime,
        (perform r (.token secret lifetime)).Alike Surroundings.Alike AnswerAlike
        (perform r (.token secret' lifetime)) := by
      intro secret secret' lifetime
      refine .look fun m => ?_
      rw [Token.lasting?, Token.lasting?]
      cases Timestamp.shifted? m.now lifetime with
      | none => exact .crash
      | some expiry => exact .done (.ok rfl)
    cases h with
    | same =>
      cases c with
      | crash => exact .crash
      | error e => exact .done (.error e)
      | token secret lifetime => exact tokens ..
    | token => exact tokens ..
  have remarks : ∀ {x y : Except Error Token}, AnswerAlike x y →
      (Task.note ⟨.info, s.name, remark x⟩ (.done x) : Task Surroundings _).Alike
        Surroundings.Alike AnswerAlike (.note ⟨.info, s.name, remark y⟩ (.done y)) := by
    intro x y answers
    have same : remark x = remark y := by cases answers <;> rfl
    rw [same]
    exact .note (.done answers)
  rw [play, play]
  split
  · exact performs.bind remarks
  · exact .look fun _ => .wait (.plain ..) fun _ => performs.bind remarks

theorem alike_getToken (s : RehearsedSource) (r : Request) :
    (s.source.getToken r).Alike Surroundings.Alike AnswerAlike (s.source.getToken r) := by
  have rehearses :
      (Surroundings.onRehearsal s.part (.step (List.drop 1) .done)).Alike Surroundings.Alike
      (Forall₂ fun c c' => c.1 = c'.1 ∧ c.2.Alike c'.2)
          (Surroundings.onRehearsal s.part (.step (List.drop 1) .done)) := by
    refine .step (fun {around around'} h => { h with rehearsals := fun i => ?_ }) fun h =>
      .done (h.rehearsals s.part)
    dsimp only [Surroundings.update]
    split
    · exact List.forall₂_drop 1 (h.rehearsals s.part)
    · exact h.rehearsals i
  refine rehearses.bind fun {l l'} cues => ?_
  cases cues with
  | nil => exact s.alike_play r _ (.same _)
  | @cons c c' _ _ first _ =>
    obtain ⟨delay, cue⟩ := c
    obtain ⟨delay', cue'⟩ := c'
    obtain ⟨rfl, cues⟩ := first
    exact s.alike_play r _ cues

end RehearsedSource

/-! ### Members -/

namespace Member

@[simp] theorem redacted_name (m : Member) : m.redacted.source.name = m.source.name := by
  cases m <;> rfl

@[simp] theorem redacted_kind (m : Member) : m.redacted.source.kind = m.source.kind := by
  cases m <;> rfl

@[simp] theorem redacted_gate? (m : Member) : m.redacted.gate? = m.gate? := by cases m <;> rfl

@[simp] theorem redacted_patience (m : Member) : m.redacted.patience = m.patience := by
  cases m <;> rfl

variable {m m' : Member}

theorem Alike.name (h : m.Alike m') : m.source.name = m'.source.name := by
  rw [← redacted_name, h, redacted_name]

theorem Alike.kind (h : m.Alike m') : m.source.kind = m'.source.kind := by
  rw [← redacted_kind, h, redacted_kind]

theorem Alike.gate? (h : m.Alike m') : m.gate? = m'.gate? := by
  rw [← redacted_gate?, h, redacted_gate?]

theorem Alike.patience (h : m.Alike m') : m.patience = m'.patience := by
  rw [← redacted_patience, h, redacted_patience]

/-- **Members that differ in their secrets** do alike. -/
theorem Alike.source (h : m.Alike m') : m.source.Alike Surroundings.Alike m'.source := by
  refine ⟨h.name, h.kind, fun r => ?_⟩
  cases m with
  | environment s =>
    cases m' <;> try cases h
    obtain ⟨secret, rfl⟩ := EnvironmentSource.exists_withSecret h
    exact s.alike_withSecret secret r
  | workload s =>
    cases m' <;> cases h
    exact s.alike_getToken r
  | managedIdentity s =>
    cases m' <;> cases h
    exact s.alike_getToken r
  | tool s =>
    cases m' <;> cases h
    exact s.alike_getToken r
  | explicit e =>
    cases m' <;> try cases h
    exact ExplicitToken.alike_getToken h r
  | rehearsed s =>
    cases m' <;> cases h
    exact s.alike_getToken r

end Member

end TokenChain
