import LspGateway.Proofs.Client.Scripts
import LspGateway.Proofs.Gateway.Calls
import LspGateway.Proofs.Gateway.Copying
import LspGateway.Proofs.Uri.File

/-! # Calls are sent on with their documents

A call about a document in a file has the text of the file sent first, and then itself, both under
the canonical URI of the document; or it fails, and nothing is sent. Any other call is sent as it
is, whatever files there are. The arguments that were given stay as they are, and the answer of the
server is the result.
-/

namespace LspGateway
open Schema.Graph (Keeps ReadsMembers)

variable {fs : Files} {languages : List String} {method path uri canonical contents : String}
  {args document : Json.Members} {ss : List Send}

theorem Text.startsWith_iff {front cs : List Char} :
    Text.startsWith front cs = true ↔ front <+: cs := by
  induction front generalizing cs with
  | nil => simp [startsWith]
  | cons c front ih => cases cs <;> simp [startsWith, ih]

/-! ## Documents and their texts -/

/-- Arguments name a document in a file. -/
structure NamesDocument (args document : Json.Members) (uri : String) : Prop where
  given : args.get? "textDocument" = some (.obj document)
  named : document.get? "uri" = some (.str uri)
  nonempty : uri ≠ ""
  file : ¬ Uri.memoryScheme.toList <+: uri.toList

/-- The text that a file holds, every line ended by a line feed. -/
def HoldsText (fs : Files) (path contents : String) : Prop :=
  Char.ofNat 0 ∉ path.toList ∧ ∃ bytes cs, fs.lookup path = .ok (.file bytes) ∧
    Text.Utf8.decode bytes = .ok cs ∧ contents = .ofList (Text.unifyLines cs)

/-- The same members in the same order, with another value for one key. -/
def Replaces (key : String) (old new : Json) (ms ms' : Json.Members) : Prop :=
  ∃ before after, (∀ m ∈ before, m.1 ≠ key) ∧ ms = before ++ (key, old) :: after ∧
    ms' = before ++ (key, new) :: after

theorem replaces_set {key : String} {old new : Json} {ms : Json.Members}
    (here : ms.get? key = some old) : Replaces key old new ms (ms.set key new) := by
  induction ms with
  | nil => cases here
  | cons m ms ih =>
    obtain ⟨k, v⟩ := m
    rw [Json.Members.set]
    by_cases same : k = key
    · subst same
      obtain rfl : v = old := by simpa [Json.Members.get?] using here
      rw [if_pos (beq_self_eq_true k)]
      exact ⟨[], ms, by simp, rfl, rfl⟩
    · obtain ⟨before, after, apart, whole, changed⟩ :=
        ih (by simpa [Json.Members.get?, same] using here)
      rw [if_neg (by simpa using same), changed]
      refine ⟨(k, v) :: before, after, ?_, by rw [whole, List.cons_append], rfl⟩
      simp only [List.mem_cons, forall_eq_or_imp]
      exact ⟨same, apart⟩

namespace Forwarding

theorem fileDocument?_eq_some_iff :
    fileDocument? args = some (document, uri) ↔ NamesDocument args document uri := by
  have memory : Uri.isMemory uri = true ↔ Uri.memoryScheme.toList <+: uri.toList :=
    Text.startsWith_iff
  constructor
  · intro found
    unfold fileDocument? at found
    split at found
    · next members here =>
      split at found
      · next named =>
        split at found
        · cases found
        · next apart =>
          obtain ⟨rfl, rfl⟩ := Prod.mk.inj (Option.some.inj found)
          simp only [Bool.or_eq_true, decide_eq_true_eq, not_or] at apart
          exact ⟨here, named, apart.1, fun starts => apart.2 (memory.mpr starts)⟩
      · cases found
    · cases found
  · rintro ⟨here, named, nonempty, file⟩
    have apart : Uri.isMemory uri = false := by
      rw [← Bool.not_eq_true, memory]
      exact file
    rw [fileDocument?, here]
    dsimp only
    rw [named]
    simp [nonempty, apart]

theorem readDocument_eq_ok_iff :
    readDocument fs path = .ok contents ↔ HoldsText fs path contents := by
  unfold readDocument Files.read Files.bytes HoldsText
  by_cases nul : Char.ofNat 0 ∈ path.toList
  · simp [nul]
  · simp only [List.contains_iff_mem, nul, if_false, not_false_eq_true, true_and]
    rcases fs.lookup path with fault | entry
    · simp
    · cases entry with
      | file bytes =>
        cases decoded : Text.Utf8.decode bytes with
        | ok cs => simp [decoded, eq_comm]
        | error e => simp [decoded]
      | directory => simp
      | denied => simp

/-- What is sent of a call about a document in a file, if it can be resolved and read. -/
theorem sends_document (names : NamesDocument args document uri)
    (leads : Uri.toPath fs.cwd uri = .ok path) (named : Uri.ofPath path = .ok canonical)
    (holds : HoldsText fs path contents) : sends fs languages method args =
      .ok [opening languages canonical contents, .request method
        (.obj (args.set "textDocument" (.obj (document.set "uri" (.str canonical)))))] := by
  rw [sends, fileDocument?_eq_some_iff.mpr names]
  dsimp only
  rw [leads]
  dsimp only
  rw [named]
  dsimp only
  rw [readDocument_eq_ok_iff.mpr holds]

/-- The call fails if the document cannot be resolved or read. -/
theorem sends_refused (names : NamesDocument args document uri)
    (fails : ∀ path canonical contents, Uri.toPath fs.cwd uri = .ok path →
      Uri.ofPath path = .ok canonical → ¬ HoldsText fs path contents) :
    ∃ e, sends fs languages method args = .error e := by
  rw [sends, fileDocument?_eq_some_iff.mpr names]
  dsimp only
  cases leads : Uri.toPath fs.cwd uri with
  | error fault => exact ⟨_, rfl⟩
  | ok path =>
    dsimp only
    cases named : Uri.ofPath path with
    | error fault => exact ⟨_, rfl⟩
    | ok canonical =>
      dsimp only
      cases read : readDocument fs path with
      | error e => exact ⟨_, rfl⟩
      | ok contents =>
        exact absurd (readDocument_eq_ok_iff.mp read) (fails path canonical contents leads named)

theorem sends_inv (names : NamesDocument args document uri)
    (leads : Uri.toPath fs.cwd uri = .ok path) (ok : sends fs languages method args = .ok ss) :
    ∃ canonical contents params, Uri.ofPath path = .ok canonical ∧
      ss = [opening languages canonical contents, .request method params] := by
  by_cases reads : ∃ canonical contents, Uri.ofPath path = .ok canonical ∧
    HoldsText fs path contents
  · obtain ⟨canonical, contents, named, holds⟩ := reads
    have sent : sends fs languages method args = _ := sends_document names leads named holds
    exact ⟨canonical, contents, _, named, Except.ok.inj (ok.symm.trans sent)⟩
  · have fails : ∀ path' canonical contents, Uri.toPath fs.cwd uri = .ok path' →
        Uri.ofPath path' = .ok canonical → ¬ HoldsText fs path' contents := by
      rintro path' canonical contents leads' named holds
      obtain rfl := Except.ok.inj (leads.symm.trans leads')
      exact reads ⟨canonical, contents, named, holds⟩
    obtain ⟨e, refused⟩ : ∃ e, sends fs languages method args = .error e :=
      sends_refused names fails
    cases ok.symm.trans refused

theorem sends_plain (other : ∀ document uri, ¬ NamesDocument args document uri) :
    sends fs languages method args = .ok [.request method (.obj args)] := by
  have none' : fileDocument? args = none := by
    rw [Option.eq_none_iff_forall_ne_some]
    rintro ⟨document, uri⟩ found
    exact other document uri (fileDocument?_eq_some_iff.mp found)
  rw [sends, none']

/-- What is sent is a request, and before it at most a notification. -/
theorem sends_announcing (ok : sends fs languages method args = .ok ss) :
    ∃ notices params, ss = Client.announcing notices method params := by
  have forwards := Gateway.forwards_sends ok
  cases forwards with
  | plain => exact ⟨[], _, rfl⟩
  | opens => exact ⟨[(_, _)], _, rfl⟩

end Forwarding

namespace Service
open Gateway

variable {s : Service} {label : String} {delivery : Delivery} {tool : Tool Action}
  {e : Forwarding.Error}

/-- No client is asked for anything by a call that is not sent on. -/
theorem session_perform_refused (forwards : tool.handler = .forward method)
    (refused : Forwarding.sends fs
      (languagesOf s.roster (Routing.select s.roster args (serverProperty? s.roster))) method
      (passedOn s.roster args) = .error e) :
    (s.perform fs label delivery tool (.obj args)).board.session = s.board.session := by
  unfold perform
  rw [forwards, plan_forward, refused]
  rfl

end Service

/-! ## A call from its arguments to its result -/

/-- What becomes of a call of a method. -/
structure SentOn (fs : Files) (languages : List String) (method : String)
    (args : Json.Members) : Prop where
  /-- A document in a file is opened with its whole text, and the call is sent with the URI that the
  document was opened under; or it cannot be resolved or read, and the call fails. -/
  about : ∀ document uri, NamesDocument args document uri →
    (∃ path canonical contents languageId document' params,
      Uri.toPath fs.cwd uri = .ok path ∧ Uri.ofPath path = .ok canonical ∧
      HoldsText fs path contents ∧
      Replaces "uri" (.str uri) (.str canonical) document document' ∧
      Replaces "textDocument" (.obj document) (.obj document') args params ∧
      Forwarding.sends fs languages method args =
        .ok [.notify "textDocument/didOpen" (.obj [("textDocument", .obj [("uri", .str canonical),
          ("languageId", .str languageId), ("version", .int 1), ("text", .str contents)])]),
          .request method (.obj params)]) ∨
    (∀ path canonical contents, Uri.toPath fs.cwd uri = .ok path →
      Uri.ofPath path = .ok canonical → ¬ HoldsText fs path contents) ∧
      ∃ e, Forwarding.sends fs languages method args = .error e
  /-- Any other call is sent as it is, and no file matters to it. -/
  other : (∀ document uri, ¬ NamesDocument args document uri) → ∀ fs' : Files,
    Forwarding.sends fs' languages method args = .ok [.request method (.obj args)]
  /-- Of a call that fails no client notices anything. -/
  refused : ∀ e, Forwarding.sends fs languages method args = .error e →
    ∀ (s : Service) (label : String) (delivery : Gateway.Delivery) (tool : Tool Gateway.Action)
      (given : Json.Members), tool.handler = .forward method →
      Gateway.passedOn s.roster given = args → Gateway.languagesOf s.roster
        (Routing.select s.roster given (Gateway.serverProperty? s.roster)) = languages →
      (s.perform fs label delivery tool (.obj given)).board.session = s.board.session
  /-- The containers that the arguments are made of, and all others, stay as they are. -/
  kept : ∀ g ms, ReadsMembers g ms args →
    Keeps g (Forwarding.handings fs languages method g ms).1 ∧
      Forwarding.Agrees (Forwarding.handings fs languages method g ms).1
        (Forwarding.handings fs languages method g ms).2
        (Forwarding.sends fs languages method args)
  /-- A client that can send writes just what is to be sent, at once or after the start that it had
  to wait for, and waits for the answer. -/
  delivered : ∀ ss, Forwarding.sends fs languages method args = .ok ss →
    ∀ (c : Client) (l n : Nat), c.CanSend l →
      c.HasAsked l n ss (c.beginCall n (.sends ss)) ∧ ∀ a result,
        c.HasAsked l n ss (c.resumeCall n (.answered (.value result)) (.joined a ss))
  /-- The answer is the result as it is. -/
  answered : ∀ (c : Client) (l n id : Nat) (result : Json),
    c.calls[n]? = some ⟨.awaiting l id [], some (.answered (.value result))⟩ →
      (c.runCall n).callOutcome? n = some (.value result)

/-- Every call of a method is sent on, with its document if that is in a file, or fails before
anything is sent. -/
theorem calls_sent_on (fs : Files) (languages : List String) (method : String)
    (args : Json.Members) : SentOn fs languages method args := by
  constructor
  case about =>
    intro document uri names
    by_cases reads : ∃ path canonical contents, Uri.toPath fs.cwd uri = .ok path ∧
      Uri.ofPath path = .ok canonical ∧ HoldsText fs path contents
    · left
      obtain ⟨path, canonical, contents, leads, named, holds⟩ := reads
      exact ⟨path, canonical, contents, _, _, _, leads, named, holds, replaces_set names.named,
        replaces_set names.given, Forwarding.sends_document names leads named holds⟩
    · right
      have fails : ∀ path canonical contents, Uri.toPath fs.cwd uri = .ok path →
          Uri.ofPath path = .ok canonical → ¬ HoldsText fs path contents :=
        fun path canonical contents leads named holds =>
          reads ⟨path, canonical, contents, leads, named, holds⟩
      exact ⟨fails, Forwarding.sends_refused names fails⟩
  case other =>
    intro other fs'
    exact Forwarding.sends_plain other
  case refused =>
    rintro e refused s label delivery tool given forwards rfl rfl
    exact Service.session_perform_refused forwards refused
  case kept =>
    intro g ms reads
    exact Forwarding.handings_agree reads
  case delivered =>
    intro ss ok c l n can
    obtain ⟨notices, params, rfl⟩ := Forwarding.sends_announcing ok
    exact ⟨can.beginCall, fun a result => can.resumeCall⟩
  case answered =>
    intro c l n id result here
    exact Client.callOutcome_answered here

/-- A path with an accent, seen from the directory, whose file ends its line with two characters. -/
theorem calls_sent_on_relative :
    let fs := Files.ofList [("/w/é.py", .file [120, 13, 10])] "/w"
    let document (uri : String) : Json.Members := [("uri", .str uri), ("version", .int 7)]
    let args (uri : String) : Json.Members :=
      [("position", .null), ("textDocument", .obj (document uri)), ("last", .bool true)]
    NamesDocument (args "é.py") (document "é.py") "é.py" ∧
    Forwarding.sends fs [] "m" (args "é.py") =
      .ok [.notify "textDocument/didOpen" (.obj [("textDocument", .obj [
        ("uri", .str "file:///w/%C3%A9.py"), ("languageId", .str "python"), ("version", .int 1),
        ("text", .str "x\n")])]), .request "m" (.obj (args "file:///w/%C3%A9.py"))] ∧
    SentOn fs [] "m" (args "é.py") := by
  intro fs document args
  refine ⟨⟨rfl, rfl, by decide, by decide⟩, ?_, calls_sent_on fs [] "m" _⟩
  decide +kernel

end LspGateway
