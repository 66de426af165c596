import LspGateway.Proofs.Gateway.Documents

/-! # Documents are opened before they are asked about

Requests to a gateway may come at any time, whatever others wait for, and whatever the servers do. A
request about a file reaches no process that was not told of the file before. No process is ever
told that a document is closed: each call about a file tells of it anew.
-/

namespace LspGateway

/-! ## What calls about documents send -/

namespace Uri

theorem namesFile_ofPath {path uri : String} (ok : ofPath path = .ok uri) : NamesFile uri := by
  unfold ofPath at ok
  dsimp only at ok
  split at ok
  · cases ok
  · obtain rfl := Except.ok.inj ok
    have starts (cs : List Char) : (fileScheme ++ String.ofList cs).toList =
        'f' :: ("ile://".toList ++ cs) := by
      rw [String.toList_append, String.toList_ofList]
      rfl
    constructor
    · intro none'
      have := congrArg String.toList none'
      rw [starts] at this
      cases this
    · rw [isMemory, starts]
      rfl

end Uri

namespace Forwarding
open Client (Plans Speech)

variable {fs : Files} {languages : List String} {method uri u : String}
  {args document : Json.Members} {ss : List Send}

/-- A call about a file tells the server of the file first, under the URI that it is asked about. -/
theorem sends_file (file : fileDocument? args = some (document, uri))
    (ok : sends fs languages method args = .ok ss) : ∃ u contents params, Uri.NamesFile u ∧
      Json.document? params = some u ∧
        ss = [opening languages u contents, .request method params] := by
  unfold sends at ok
  rw [file] at ok
  dsimp only at ok
  split at ok
  · cases ok
  · split at ok
    · cases ok
    · next u named =>
      split at ok
      · cases ok
      · obtain rfl := Except.ok.inj ok
        refine ⟨u, _, _, Uri.namesFile_ofPath named, ?_, rfl⟩
        simp only [Json.document?, Json.get?, Json.Members.get?_set, Option.bind_some, Json.str?]

theorem fileDocument_of_document (about : Json.document? (.obj args) = some u)
    (file : Uri.NamesFile u) : ∃ document, fileDocument? args = some (document, u) := by
  obtain ⟨j, inner, text⟩ := Option.bind_eq_some_iff.mp about
  obtain ⟨d, here, named⟩ := Option.bind_eq_some_iff.mp inner
  have here : args.get? "textDocument" = some d := here
  cases d with
  | obj document =>
    have named : Json.Members.get? document "uri" = some j := named
    cases j with
    | str uri =>
      obtain rfl := Option.some.inj text
      refine ⟨document, ?_⟩
      rw [fileDocument?, here]
      dsimp only
      rw [named]
      simp [file.1, file.2]
    | _ => cases text
  | _ => cases named

/-- What a call of a method sends tells of no document in memory. -/
theorem speech_sends (held : Nat) (ok : sends fs languages method args = .ok ss) :
    Speech held ss ∧ ∀ u, Uri.isMemory u → ¬ Plans u ss := by
  cases file : fileDocument? args with
  | some d =>
    obtain ⟨u, contents, params, names, about, rfl⟩ := sends_file file ok
    refine ⟨.file names about, fun u' memory plans => ?_⟩
    obtain rfl := Client.eq_of_plans plans Client.not_plans_request
    cases memory.symm.trans names.2
  | none =>
    rw [sends, file] at ok
    obtain rfl := Except.ok.inj ok
    refine ⟨.plain fun u about names => ?_, fun _ _ => Client.not_plans_request⟩
    obtain ⟨document, found⟩ := fileDocument_of_document about names
    cases file.symm.trans found

end Forwarding

namespace Gateway
open Client (Speech)

variable {fs : Files} {r : Roster} {status : List ServerStatus} {documents : Nat} {action : Action}

/-- What is planned for a call: a new document in memory, what forwards a method, or nothing. -/
inductive Makes (documents : Nat) : Nat × Except CallError Plan → Prop
  | refuses {e : CallError} : Makes documents (documents, .error e)
  | answers {n : Nat} {answer : Answer} : Makes documents (documents, .ok ⟨n, [], answer⟩)
  | opens {n : Nat} {languages : List String} {server contents : String} {answer : Answer} :
    Makes documents (documents + 1,
      .ok ⟨n, [Forwarding.opening languages (memoryUri (documents + 1) server) contents], answer⟩)
  | forwards {fs : Files} {languages : List String} {method : String} {args : Json.Members}
    {n : Nat} {sends : List Send} {answer : Answer}
    (ok : Forwarding.sends fs languages method args = .ok sends) :
    Makes documents (documents, .ok ⟨n, sends, answer⟩)

theorem makes_plan (args : Json.Members) :
    Makes documents (plan fs r status documents action args) := by
  unfold plan
  split
  · exact .answers
  · split
    · exact .opens
    · exact .refuses
  · dsimp only
    split
    · next ok => exact .forwards ok
    · exact .refuses

theorem makes_planFor (args : Json) :
    Makes documents (planFor fs r status documents action args) := by
  unfold planFor
  split
  · exact makes_plan []
  · exact makes_plan _
  · exact .refuses

end Gateway

/-! ## Steps -/

/-- A process does something. -/
def Client.Input.isDeed : Client.Input → Bool
  | .output _ | .errors _ | .outputEnd | .exit _ | .inputFault _ => true
  | _ => false

namespace Session
open Client (Input Briefed)

variable {s : Session} {P Q : Client → Prop} {x : Input} {i begun held : Nat}

/-- What holds of all clients, if something happens to one of them. -/
theorem all_apply (all : ∀ c ∈ s.clients, P c) (stays : ∀ c, P c → Q c)
    (step : ∀ c, P c → Q (c.step x)) : ∀ c ∈ (s.apply i begun x).clients, Q c := by
  intro c mem
  unfold apply at mem
  split at mem
  · exact stays c (all c mem)
  · next b here =>
    obtain mem | rfl := List.mem_or_eq_of_mem_set mem
    · exact stays c (all c mem)
    · exact step b (all b (List.mem_of_getElem? here))

theorem all_foldl {α : Type} {f : Session → α → Session} {xs : List α}
    (step : ∀ s x, (∀ c ∈ s.clients, P c) → ∀ c ∈ (f s x).clients, P c)
    (all : ∀ c ∈ s.clients, P c) : ∀ c ∈ (xs.foldl f s).clients, P c := by
  induction xs generalizing s with
  | nil => exact all
  | cons x xs ih => exact ih (step s x all)

/-- An input that asks for no sends. -/
theorem briefed_apply (all : ∀ c ∈ s.clients, Briefed held c)
    (fits : ∀ c : Client, c.audience = .client → x.Fits c) (silent : ∀ ss, x ≠ .call (.sends ss)) :
    ∀ c ∈ (s.apply i begun x).clients, Briefed held c :=
  all_apply all (fun _ h => h) fun c h =>
    h.step (fits c h.scripted.client) fun ss asks => absurd asks (silent ss)

end Session

namespace Service
open Gateway
open Client (Briefed IsOpening IsClosing AsksAbout)

variable {s s' s₀ : Service} {fs fs₀ : Files} {label name : String} {delivery : Delivery}
  {tool : Tool Action} {config : Config} {env : Environment} {policies : String → List Policy}

/-- What happens to a gateway, one thing after another. Nobody has to wait for an answer before
something else is asked. -/
inductive Step
  | enters (fs : Files) (label : String)
  | lists (label : String)
  | callsText (fs : Files) (label name : String) (args : Option Json)
  | callsTool (fs : Files) (label name : String) (args : Option Json.Members)
  | cancels (label : String)
  | leaves (label : String)
  | reports
  /-- The activity goes on whose turn it is. -/
  | goesOn
  /-- Time passes, and those who wait up to the moment `due` go on. -/
  | passes (time due : Nat)
  /-- The process that a client has started last does something. -/
  | does (i : Nat) (deed : Client.Input) (own : deed.isDeed)

def follow (s : Service) : Step → Service
  | .enters fs label => s.enter fs label
  | .lists label => s.answer label s.listing
  | .callsText fs label name args => s.callText fs label name args
  | .callsTool fs label name args => s.callTool fs label name args
  | .cancels label => { s with board := s.board.cancel label }
  | .leaves label => s.leave label
  | .reports => s.report.1
  | .goesOn => { s with board := { s.board with session := s.board.session.turn } }
  | .passes time due =>
    { s with board := { s.board with session := s.board.session.passTo time due } }
  | .does i deed _ => { s with board := s.board.input i deed }

/-- A whole run, step by step. -/
def followAll (s : Service) (steps : List Step) : Service := steps.foldl follow s

/-- All clients stand as they may in a gateway. -/
def IsBriefed (s : Service) : Prop := ∀ c ∈ s.clients, Briefed s.documents c

namespace IsBriefed

theorem congr (h : s.IsBriefed) (clients : s'.clients = s.clients)
    (documents : s'.documents = s.documents) : s'.IsBriefed := by
  intro c mem
  rw [documents]
  exact h c (clients ▸ mem)

theorem create (created : create fs₀ env config policies = .ok s₀) : s₀.IsBriefed := by
  unfold Service.create at created
  split at created
  · cases created
  · obtain rfl := Except.ok.inj created
    intro c mem
    obtain ⟨server, -, rfl⟩ := List.mem_map.mp mem
    exact Client.briefed_ofConfig

/-- A call asks a client for what the plan says. -/
theorem perform (h : s.IsBriefed) (args : Json) :
    (s.perform fs label delivery tool args).IsBriefed := by
  have makes : Makes s.documents (planFor fs s.roster s.status s.documents tool.handler args) :=
    makes_planFor args
  unfold Service.perform
  split
  · next made =>
    rw [made] at makes
    cases makes
    exact h.congr rfl rfl
  · next made =>
    rw [made] at makes
    cases makes with
    | answers => exact h.congr rfl rfl
    | opens =>
      refine Session.all_apply (P := Briefed s.documents) h (fun c h => h.mono (Nat.le_succ _))
        fun c h => ?_
      refine (h.mono (Nat.le_succ _)).step trivial ?_
      rintro _ ⟨⟩
      refine ⟨.memory (Nat.le_refl _), fun u _ plans => ?_⟩
      rw [Client.eq_of_plans plans Client.not_plans_nil]
      exact h.unheard_next _
    | forwards ok =>
      obtain ⟨speech, free⟩ := Forwarding.speech_sends s.documents ok
      dsimp only
      split
      · exact h.congr rfl rfl
      · refine Session.all_apply (P := Briefed s.documents) h (fun _ h => h) fun c h => ?_
        refine h.step trivial ?_
        rintro _ ⟨⟩
        exact ⟨speech, fun u memory plans => absurd plans (free u memory)⟩

theorem handles (h : s.IsBriefed) (handles : Handles s fs label delivery s') : s'.IsBriefed := by
  cases handles with
  | answers | notes => exact h.congr rfl rfl
  | performs tool args => exact h.perform args

theorem enter (h : s.IsBriefed) : (s.enter fs label).IsBriefed := by
  obtain ⟨s₁, r, prepares, same⟩ := Prepares.enter
  rw [same]
  exact h.congr prepares.clients prepares.documents

/-- What happens to a gateway leaves its clients standing as they may. -/
theorem follow (h : s.IsBriefed) (step : Step) : (s.follow step).IsBriefed := by
  cases step with
  | enters fs label => exact h.enter
  | lists | reports => exact h.congr rfl rfl
  | callsText fs label name args => exact h.handles handles_callText
  | callsTool fs label name args => exact h.handles handles_callTool
  | cancels label =>
    exact Session.all_foldl (fun b p all => Session.briefed_apply all (fun _ _ => trivial) nofun) h
  | leaves label =>
    show ∀ c ∈ (s.leave label).board.session.clients, Briefed s.documents c
    have asked : (s.leave label).board.session.clients = ((List.range s.clients.length).foldl
        (fun b i => b.input i (.call .dispose)) (s.board.session.note _)).clients :=
      congrArg Session.clients session_askAll
    rw [asked]
    exact Session.all_foldl
      (fun b i all => Session.briefed_apply all (fun _ client => client) nofun) h
  | goesOn =>
    show ∀ c ∈ s.board.session.turn.clients, Briefed s.documents c
    unfold Session.turn
    split
    · exact h
    · exact Session.briefed_apply h (fun _ _ => trivial) nofun
  | passes time due =>
    exact Session.all_foldl (fun b i all => Session.briefed_apply all (fun _ _ => trivial) nofun) h
  | does i deed own =>
    refine Session.briefed_apply h (fun c _ => ?_) fun ss e => ?_
    · cases deed <;> trivial
    · subst e
      cases own

theorem followAll (h : s.IsBriefed) (steps : List Step) : (s.followAll steps).IsBriefed := by
  induction steps generalizing s with
  | nil => exact h
  | cons step steps ih => exact ih (h.follow step)

end IsBriefed

/-! ## Files and documents in memory -/

theorem talk_of_created (created : create fs₀ env config policies = .ok s₀) {steps : List Step}
    {i k : Nat} {c : Client} (here : (s₀.followAll steps).clients[i]? = some c) :
    Client.Talk (Client.Speech (s₀.followAll steps).documents) c.HasBroken (c.sentTo k) :=
  (((IsBriefed.create created).followAll steps) c (List.mem_of_getElem? here)).scripted.talks k

/-- Files with a document among them. -/
def shelf : Files :=
  { library with entries := library.entries ++ (Files.ofList [("/ws/f", .file [120])] "/ws").entries }

def fileUri : String := "file:///ws/f"

/-- The arguments of a call about the file. -/
def aboutFile : Json.Members := [("textDocument", .obj [("uri", .str fileUri)])]

/-- Two calls about the file at the same time. -/
def twoCalls : List Step :=
  [.enters shelf "enter", .callsText shelf "first" "m" (some (.obj aboutFile)),
    .callsText shelf "second" "m" (some (.obj aboutFile))] ++ List.replicate 10 .goesOn

/-- What the two calls have sent. -/
def twoReadings : List Json :=
  let news := Client.news [] fileUri "x"
  [news, Client.message (some 2) "m" (.obj aboutFile),
    news, Client.message (some 3) "m" (.obj aboutFile)]

theorem twoCalls_sent : ∃ s₀ c before, createdOf [] = .ok s₀ ∧
    (s₀.followAll twoCalls).clients[0]? = some c ∧ c.sentTo 0 = before ++ twoReadings := by
  have facts : (createdOf []).toOption.any (fun s₀ =>
      (s₀.followAll twoCalls).clients[0]?.any fun c => twoReadings.isSuffixOf (c.sentTo 0)) := by
    decide +kernel
  cases created : createdOf [] with
  | error fault =>
    rw [created] at facts
    cases facts
  | ok s₀ =>
    rw [created] at facts
    have facts : (s₀.followAll twoCalls).clients[0]?.any fun c =>
      twoReadings.isSuffixOf (c.sentTo 0) := facts
    cases here : (s₀.followAll twoCalls).clients[0]? with
    | none =>
      rw [here] at facts
      cases facts
    | some c =>
      rw [here] at facts
      obtain ⟨before, sent⟩ := List.isSuffixOf_iff_suffix.mp facts
      exact ⟨s₀, c, before, rfl, here, sent.symm⟩

/-- Between two notifications that a document is open there is one that it is closed. -/
def IsBalanced (ms : List Json) : Prop :=
  ∀ u before o between o' after, ms = before ++ o :: (between ++ o' :: after) → IsOpening u o →
    IsOpening u o' → ∃ m ∈ between, IsClosing u m

end Service

end LspGateway
