import Mathlib.Data.List.DropRight
import DatabaseGateway.Client.Session
import DatabaseGateway.Proofs.Wire.Backend
import DatabaseGateway.Proofs.Wire.Conversation

/-!
What the reply to a query says, read off all its messages at once: one result for each statement
that was completed, and the first error. A session gathers the same from the messages one by one
(`Reflects.take`).
-/

namespace DatabaseGateway.Client

open Wire

/-! ### The results of a reply -/

/-- A message after which nothing counts that came before it for the statement under way. -/
def endsStatement : BackendMessage → Bool
  | .commandComplete _ | .errorResponse _ => true
  | _ => false

/-- The messages since a statement was completed or failed. -/
def underWay (messages : List BackendMessage) : List BackendMessage :=
  messages.rtakeWhile fun m => !endsStatement m

def columnNames? : BackendMessage → Option (List String)
  | .rowDescription fields => some (fields.map Field.name)
  | _ => none

def rowTexts? : BackendMessage → Option (List (Option String))
  | .dataRow row => (Row.toTexts row).toOption
  | _ => none

def report? : BackendMessage → Option Report
  | .errorResponse report => some report
  | _ => none

/-- The columns of the statement under way: those that were described last. -/
def columnsAfter (messages : List BackendMessage) : List String :=
  ((underWay messages).filterMap columnNames?).getLast?.getD []

def rowsAfter (messages : List BackendMessage) : List (List (Option String)) :=
  (underWay messages).filterMap rowTexts?

def resultAt? (before : List BackendMessage) : BackendMessage → Option QueryResult
  | .commandComplete tag => some { columns := columnsAfter before, rows := rowsAfter before, tag }
  | _ => none

def resultsBehind (before : List BackendMessage) : List BackendMessage → List QueryResult
  | [] => []
  | m :: ms => (resultAt? before m).toList ++ resultsBehind (before ++ [m]) ms

section Concat

variable (before : List BackendMessage) (m : BackendMessage)

theorem underWay_concat :
    underWay (before ++ [m]) = if endsStatement m then [] else underWay before ++ [m] := by
  rw [underWay, List.rtakeWhile_concat]
  cases endsStatement m <;> rfl

theorem columnsAfter_concat :
    columnsAfter (before ++ [m]) =
      if endsStatement m then [] else (columnNames? m).getD (columnsAfter before) := by
  rw [columnsAfter, underWay_concat]
  split
  · rfl
  · rw [List.filterMap_append]
    cases hnamed : columnNames? m <;> simp [columnsAfter, hnamed]

theorem rowsAfter_concat :
    rowsAfter (before ++ [m]) =
      if endsStatement m then [] else rowsAfter before ++ (rowTexts? m).toList := by
  rw [rowsAfter, underWay_concat]
  split
  · rfl
  · rw [List.filterMap_append]
    cases hread : rowTexts? m <;> simp [rowsAfter, hread]

theorem resultsBehind_concat (first : List BackendMessage) :
    resultsBehind first (before ++ [m]) =
      resultsBehind first before ++ (resultAt? (first ++ before) m).toList := by
  induction before generalizing first with
  | nil => simp [resultsBehind]
  | cons n before ih => simp [resultsBehind, ih]

end Concat

/-- The reply of a server: messages, and then the status in which it is ready again. -/
structure Response where
  messages : List BackendMessage
  status : TransactionStatus

namespace Response

def encode (r : Response) : Bytes :=
  r.messages.flatMap BackendMessage.encode ++ (BackendMessage.readyForQuery r.status).encode

def results (r : Response) : List QueryResult := resultsBehind [] r.messages

def error? (r : Response) : Option Report := r.messages.findSome? report?

/-- A message that can stand in a reply before its end, with rows of texts. -/
def Gatherable : BackendMessage → Prop
  | .readyForQuery _ => False
  | .dataRow row => (Row.toTexts row).isOk = true
  | _ => True

instance : DecidablePred Gatherable
  | .readyForQuery _ => .isFalse id
  | .dataRow _ => inferInstanceAs (Decidable (_ = true))
  | .authentication _ | .parameterStatus .. | .backendKeyData .. | .parseComplete | .bindComplete
  | .rowDescription _ | .commandComplete _ | .emptyQueryResponse | .errorResponse _
  | .noticeResponse _ => .isTrue trivial

/-- A reply that the wire can carry to a client, with rows of texts. -/
def Proper (r : Response) : Prop :=
  ∀ m ∈ r.messages, m.Representable defaultMaxFrameSize ∧ Gatherable m

instance : DecidablePred Proper := fun _ => inferInstanceAs (Decidable (∀ _ ∈ _, _ ∧ _))

end Response

/-! ### Gathering them -/

/-- What a session has gathered, by the messages that it has taken. -/
@[mk_iff]
structure Reflects (before : List BackendMessage) (g : Gathering) : Prop where
  results : g.results.reverse = resultsBehind [] before
  columns : g.columns = columnsAfter before
  rows : g.rows.reverse = rowsAfter before
  error : g.error = before.findSome? report?

namespace Reflects

variable {before : List BackendMessage} {g : Gathering} {m : BackendMessage}

theorem nil : Reflects [] {} := ⟨rfl, rfl, rfl, rfl⟩

theorem concat_iff {g' : Gathering} : Reflects (before ++ [m]) g' ↔
    g'.results.reverse = resultsBehind [] before ++ (resultAt? before m).toList ∧
    g'.columns = (if endsStatement m then [] else (columnNames? m).getD (columnsAfter before)) ∧
    g'.rows.reverse = (if endsStatement m then [] else rowsAfter before ++ (rowTexts? m).toList) ∧
    g'.error = (before.findSome? report?).or (report? m) := by
  rw [reflects_iff, resultsBehind_concat, columnsAfter_concat, rowsAfter_concat,
    List.findSome?_append, List.findSome?_singleton, List.nil_append]

theorem take (hreflects : Reflects before g) (hgatherable : Response.Gatherable m) :
    ∃ g', g.take m = .more g' ∧ Reflects (before ++ [m]) g' := by
  obtain ⟨hresults, hcolumns, hrows, herror⟩ := hreflects
  cases m with
  | readyForQuery => cases hgatherable
  | dataRow row =>
      obtain ⟨texts, hread⟩ : ∃ texts, Row.toTexts row = .ok texts := by
        change (Row.toTexts row).isOk = true at hgatherable
        cases hread : Row.toTexts row with
        | error e => rw [hread] at hgatherable; cases hgatherable
        | ok texts => exact ⟨texts, rfl⟩
      refine ⟨{ g with rows := texts :: g.rows }, by simp only [Gathering.take, hread],
        concat_iff.2 ?_⟩
      simp [resultAt?, endsStatement, columnNames?, rowTexts?, report?, Except.toOption, hread,
        hresults, hcolumns, hrows, herror]
  | _ =>
      refine ⟨_, rfl, concat_iff.2 ?_⟩
      simp [resultAt?, endsStatement, columnNames?, rowTexts?, report?, hresults, hcolumns, hrows,
        herror]

/-- The messages of a reply lead a session from gathering nothing to what they say. -/
theorem leads {ms : List BackendMessage} (hreflects : Reflects before g)
    (hproper : ∀ m ∈ ms, m.Representable defaultMaxFrameSize ∧ Response.Gatherable m) :
    ∃ g', Leads (fun m g g' => g.take m = .more g') (ms.map BackendMessage.frame) g g' ∧
      Reflects (before ++ ms) g' := by
  induction ms generalizing before g with
  | nil => exact ⟨g, .nil, by rwa [List.append_nil]⟩
  | cons m ms ih =>
      obtain ⟨⟨hrepresentable, hgatherable⟩, hproper⟩ := List.forall_mem_cons.1 hproper
      obtain ⟨g₁, htaken, hreflects⟩ := hreflects.take hgatherable
      obtain ⟨g', hleads, hreflects⟩ := ih hreflects hproper
      rw [List.append_assoc, List.singleton_append] at hreflects
      exact ⟨g', .move hrepresentable.decode_frame htaken hleads, hreflects⟩

end Reflects

end DatabaseGateway.Client
