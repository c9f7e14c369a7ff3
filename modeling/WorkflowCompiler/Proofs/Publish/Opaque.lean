import WorkflowCompiler.Proofs.Json.Form
import WorkflowCompiler.Proofs.Json.Lookup
import WorkflowCompiler.Proofs.Text.Base64
import WorkflowCompiler.Proofs.Text.Utf8
import WorkflowCompiler.Publish.Envelope

/-!
Opaque data is read back as what it was made from: base64, UTF-8 and JSON text each lose
nothing, so whatever form takes the text of a value gets it out of its opaque text.
-/
namespace WorkflowCompiler.Publish

open Json (Value Members Form Portable Takes write compact)

namespace Opaque

theorem bytes_encode (v : Value) : bytes (encode v) = .ok (Text.encodeUtf8 v.toText) := by
  rw [bytes, encode, String.toList_ofList, Text.Base64.decode_encode]

theorem decode_encode {form : Form} {v w : Value}
    (takes : Takes (form.read Json.depthLimit) (write compact v) w) :
    decode form (encode v) = .ok w := by
  have parsed : form.parse v.toText = .ok w := by
    rw [Form.parse, Value.toText, String.toList_ofList, Json.whole_of_takes takes]
    rfl
  simp only [decode, bytes_encode, bind, Except.bind, Text.decodeUtf8?_encodeUtf8, parsed]
  rfl

theorem decode_any_encode {v : Value} (portable : Portable Json.depthLimit v) :
    decode .any (encode v) = .ok v :=
  decode_encode (Form.takes_any portable)

theorem decodeText_encode (s : String) : decodeText (encode (.text s)) = .ok s := by
  have text := decode_encode (Form.takes_text Json.depthLimit s)
  simp only [decodeText, text, bind, Except.bind]

end Opaque

namespace Envelope

structure Texts (members : Members) : Prop where
  sorted : members.Sorted
  texts : ∀ m ∈ members, ∃ s, m.2 = .text s

theorem Texts.portable {members : Members} (h : Texts members) {depth : Nat} :
    ∀ m ∈ members, Portable depth m.2 := by
  intro m hm
  obtain ⟨s, hs⟩ := h.texts m hm
  exact hs ▸ .text s

theorem Texts.takes {members : Members} (h : Texts members) (depth : Nat) :
    Takes ((Form.map .text).read (depth + 1)) (write compact (.object members))
      (.object members) := by
  refine Form.takes_map h.sorted fun m hm => ?_
  obtain ⟨s, hs⟩ := h.texts m hm
  exact hs ▸ Form.takes_text depth s

/-- Envelopes that can be sent without loss: the two values in them nest one level less than a
document may. -/
structure Sendable (e : Envelope) : Prop where
  sql : Texts e.sql
  shortDescriptions : Texts e.shortDescriptions
  docs : Texts e.docs
  account : Portable 126 e.account
  configuration : Portable 126 e.configuration

def members (e : Envelope) : Members := e.toValue.members

theorem nodup_members (e : Envelope) : (e.members.map (·.1)).Nodup := by
  simp [members, toValue, Value.members]

theorem get?_members (e : Envelope) (key : String) :
    (Members.ofList e.members).get? key = Members.get? e.members key :=
  Members.get?_ofList e.nodup_members key

theorem ofMembers_members (e : Envelope) : ofMembers (Members.ofList e.members) = e := by
  simp only [ofMembers, Members.text?, get?_members]
  simp [Members.get?, members, toValue, Value.members]

theorem missing?_members (e : Envelope) : record.missing? (Members.ofList e.members) = none := by
  simp only [Json.Record.missing?, Members.contains_eq_isSome, get?_members]
  simp [record, Json.Field.needed, Members.get?, members, toValue, Value.members]

/-- Every member is taken by its field's form. -/
theorem Sendable.takes_members {e : Envelope} (h : e.Sendable) : ∀ m ∈ e.members, ∃ f,
    record.field? m.1 = some f ∧ Takes (f.form.read 126) (write compact m.2) m.2 := by
  intro m hm
  simp only [members, toValue, Value.members, List.mem_cons, List.not_mem_nil, or_false] at hm
  rcases hm with rfl | rfl | rfl | rfl | rfl | rfl | rfl | rfl | rfl | rfl
  · exact ⟨.needed "sql" (.map .text), rfl, h.sql.takes 125⟩
  · exact ⟨.needed "short_descriptions" (.map .text), rfl, h.shortDescriptions.takes 125⟩
  · exact ⟨.needed "docs_md" (.map .text), rfl, h.docs.takes 125⟩
  · exact ⟨.needed "account" .any, rfl, Form.takes_any h.account⟩
  · exact ⟨.needed "environment" .text, rfl, Form.takes_text 126 e.environment⟩
  · exact ⟨.needed "configuration" .any, rfl, Form.takes_any h.configuration⟩
  · exact ⟨.needed "configuration_type" .text, rfl, Form.takes_text 126 e.configurationType⟩
  · exact ⟨.needed "configuration_id" .text, rfl, Form.takes_text 126 e.configurationId⟩
  · exact ⟨.needed "client_type" .text, rfl, Form.takes_text 126 e.clientType⟩
  · exact ⟨.needed "client_version" .text, rfl, Form.takes_text 126 e.clientVersion⟩

theorem Sendable.decode_encode {e : Envelope} (h : e.Sendable) :
    decode (Opaque.encode e.toValue) = .ok e := by
  have takes : Takes (record.form.read Json.depthLimit) (write compact e.toValue)
      (.object (Members.ofList e.members)) :=
    Json.Record.takes_form h.takes_members e.nodup_members e.missing?_members
  simp only [decode, Opaque.decode_encode takes, bind, Except.bind, Value.members,
    ofMembers_members]

end Envelope

end WorkflowCompiler.Publish
