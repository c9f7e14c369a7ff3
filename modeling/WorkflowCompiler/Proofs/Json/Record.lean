import WorkflowCompiler.Json.Form
import WorkflowCompiler.Proofs.Json.Edit

/-!
Holding values against forms. The forms of documents take a value as it is or not at all. Members
fit a record when those that are fields have their forms and no required one is absent; then each
field can be read as what it is, and written again as it was.
-/
namespace WorkflowCompiler.Json

namespace Form

variable {form : Form} {v w : Value}

/-- A value that has the form is taken as it is. -/
def Keeps (form : Form) : Prop :=
  ∀ v w, form.accept v = .ok w → w = v

theorem accept_text_iff : text.accept v = .ok w ↔ w = v ∧ ∃ s, v = .text s := by
  cases v <;> simp [text, ofAccept, eq_comm]

theorem accept_flag_iff : flag.accept v = .ok w ↔ w = v ∧ ∃ b, v = .flag b := by
  cases v <;> simp [flag, ofAccept, eq_comm]

theorem accept_natural_iff {bits : Nat} {name : String} :
    (natural bits name).accept v = .ok w ↔ w = v ∧ ∃ n : Nat, v = .ofNat n ∧ n < 2 ^ bits := by
  have pow : Int.pow 2 bits = ((2 ^ bits : Nat) : Int) := (Int.natCast_pow 2 bits).symm
  constructor
  · intro h
    unfold natural ofAccept at h
    dsimp only at h
    split at h
    · next n =>
      split at h
      · next small =>
        cases h
        rw [pow] at small
        exact ⟨rfl, n.toNat, by rw [Value.ofNat, Int.toNat_of_nonneg small.1], by omega⟩
      · cases h
    · cases h
  · rintro ⟨rfl, n, rfl, small⟩
    have inBounds : 0 ≤ (n : Int) ∧ (n : Int) < Int.pow 2 bits := by
      rw [pow]
      omega
    exact if_pos inBounds

theorem accept_optional_iff :
    (optional form).accept v = .ok w ↔ v = .null ∧ w = v ∨ v ≠ .null ∧ form.accept v = .ok w := by
  cases v <;> simp [optional, ofAccept, eq_comm]

theorem accept_text? (s? : Option String) :
    ∀ v ∈ s?.map Value.text, (optional text).accept v = .ok v := by
  intro v hv
  obtain ⟨s, _, rfl⟩ := Option.map_eq_some_iff.mp hv
  rfl

theorem accept_flag? (b? : Option Bool) :
    ∀ v ∈ b?.map Value.flag, (optional flag).accept v = .ok v := by
  intro v hv
  obtain ⟨b, _, rfl⟩ := Option.map_eq_some_iff.mp hv
  rfl

theorem keeps_text : text.Keeps := fun _ _ h => (accept_text_iff.mp h).1

theorem keeps_flag : flag.Keeps := fun _ _ h => (accept_flag_iff.mp h).1

theorem keeps_natural (bits : Nat) (name : String) : (natural bits name).Keeps :=
  fun _ _ h => (accept_natural_iff.mp h).1

theorem keeps_any : any.Keeps := fun _ _ h => (Except.ok.inj h).symm

theorem Keeps.optional (keeps : form.Keeps) : (optional form).Keeps := by
  intro v w h
  rcases accept_optional_iff.mp h with ⟨_, same⟩ | ⟨_, h⟩
  · exact same
  · exact keeps v w h

theorem accept_list_iff (keeps : form.Keeps) : (list form).accept v = .ok w ↔
    w = v ∧ ∃ items, v = .list items ∧ ∀ item ∈ items, form.accept item = .ok item := by
  constructor
  · intro h
    unfold list at h
    dsimp only at h
    split at h
    · next items =>
      obtain ⟨taken, htaken, h⟩ := bind_eq_ok_iff.mp h
      cases h
      have each := mapM_eq_ok_iff.mp htaken
      obtain rfl : items = taken :=
        List.forall₂_eq_eq_eq ▸ each.imp fun item kept h => (keeps item kept h).symm
      exact ⟨rfl, items, rfl, List.forall₂_same.mp each⟩
    · cases h
  · rintro ⟨rfl, items, rfl, each⟩
    exact bind_eq_ok_iff.mpr ⟨items, mapM_eq_ok_iff.mpr (List.forall₂_same.mpr each), rfl⟩

/-- A list that is accepted as one of texts is a list of texts. -/
theorem exists_texts_of_accept (h : (list text).accept v = .ok w) :
    ∃ texts : List String, v = .texts texts := by
  obtain ⟨_, items, rfl, each⟩ := (accept_list_iff keeps_text).mp h
  obtain ⟨texts, same⟩ := exists_forall₂_iff.mpr fun item hitem =>
    (accept_text_iff.mp (each item hitem)).2
  exact ⟨texts, congrArg Value.list (List.forall₂_eq_eq_eq ▸ List.forall₂_map_right_iff.mpr same)⟩

theorem Keeps.list (keeps : form.Keeps) : (list form).Keeps :=
  fun _ _ h => ((accept_list_iff keeps).mp h).1

end Form

/-- Members of which those that are fields have their forms, and none is absent that must be
there. -/
structure Record.Fits (r : Record) (members : Members) : Prop where
  accepted : ∀ m ∈ members, ∀ f, r.field? m.1 = some f → f.form.accept m.2 = .ok m.2
  complete : ∀ f ∈ r.fields, f.required = true → members.contains f.name = true

namespace Record

variable {r : Record} {members : Members} {v w : Value}

theorem field?_eq_none_iff {key : String} : r.field? key = none ↔ key ∉ r.fields.map (·.name) := by
  rw [field?, List.find?_eq_none, List.mem_map]
  constructor
  · rintro unknown ⟨f, hf, rfl⟩
    exact unknown f hf (beq_self_eq_true _)
  · intro unnamed f hf same
    exact unnamed ⟨f, hf, beq_iff_eq.mp same⟩

theorem missing?_eq_none_iff : r.missing? members = none ↔
    ∀ f ∈ r.fields, f.required = true → members.contains f.name = true := by
  simp [missing?]

theorem acceptMembers_eq_ok_iff (keeps : ∀ f ∈ r.fields, f.form.Keeps) :
    r.acceptMembers members = .ok w ↔ w = .object members ∧ r.Fits members := by
  rw [acceptMembers, bind_eq_ok_iff]
  constructor
  · rintro ⟨kept, hkept, h⟩
    have taken : List.Forall₂ (fun m n : String × Value =>
        n = m ∧ ∀ f, r.field? m.1 = some f → f.form.accept m.2 = .ok m.2) members kept := by
      refine (mapM_eq_ok_iff.mp hkept).imp fun m n hn => ?_
      split at hn
      · next f found =>
        obtain ⟨taken, htaken, hn⟩ := bind_eq_ok_iff.mp hn
        cases hn
        obtain rfl := keeps f (List.mem_of_find?_eq_some found) _ _ htaken
        refine ⟨rfl, fun g hg => ?_⟩
        cases found.symm.trans hg
        exact htaken
      · next unknown =>
        cases hn
        exact ⟨rfl, fun f hf => by rw [unknown] at hf; cases hf⟩
    split at h
    · cases h
    · next complete =>
      cases h
      obtain rfl : members = kept := List.forall₂_eq_eq_eq ▸ taken.imp fun m n h => h.1.symm
      exact ⟨rfl, fun m hm => (List.forall₂_same.mp taken m hm).2, missing?_eq_none_iff.mp complete⟩
  · rintro ⟨rfl, fits⟩
    refine ⟨members, mapM_eq_ok_iff.mpr (List.forall₂_same.mpr fun m hm => ?_), ?_⟩
    · split
      · next f found => rw [fits.accepted m hm f found]; rfl
      · rfl
    · rw [missing?_eq_none_iff.mpr fits.complete]

/-- A record takes the objects that fit it. -/
theorem accept_form_iff (strict : r.positional = false) (keeps : ∀ f ∈ r.fields, f.form.Keeps) :
    r.form.accept v = .ok w ↔ w = v ∧ ∃ members, v = .object members ∧ r.Fits members := by
  unfold form
  dsimp only
  split
  · next members =>
    rw [acceptMembers_eq_ok_iff keeps]
    simp
  · next items => simp [strict]
  · next other _ => exact iff_of_false (fun h => by cases h) fun ⟨_, _, same, _⟩ => other _ same

theorem keeps_form (strict : r.positional = false) (keeps : ∀ f ∈ r.fields, f.form.Keeps) :
    r.form.Keeps :=
  fun _ _ h => ((accept_form_iff strict keeps).mp h).1

end Record

namespace Members

variable {members : Members} {key : String} {α : Type} {read : Value → Option α}
  {write : α → Value}

/-- What is read under a key is written as it stood there, and a default where there is nothing. -/
theorem write_getD_read (readable : ∀ v ∈ members.get? key, ∃ a, read v = some a ∧ write a = v)
    (default : α) : write (((members.get? key).bind read).getD default) =
      (members.get? key).getD (write default) := by
  cases found : members.get? key with
  | none => rfl
  | some v =>
    obtain ⟨a, reads, same⟩ := readable v found
    simp [reads, same]

/-- What may be read under a key is written as it stood there unless it is null. -/
theorem map_write_read (readable : ∀ v ∈ members.get? key,
      v = .null ∧ read v = none ∨ v ≠ .null ∧ ∃ a, read v = some a ∧ write a = v) :
    ((members.get? key).bind read).map write = members.present? key := by
  rw [present?_eq_filter]
  cases found : members.get? key with
  | none => rfl
  | some v =>
    rcases readable v found with ⟨rfl, unread⟩ | ⟨there, a, reads, same⟩
    · simp [unread, Option.filter_some, Value.isNull]
    · simp [reads, same, Option.filter_some, Value.isNull_eq_false_iff.mpr there]

theorem text?_of_get? {s : String} (h : members.get? key = some (.text s)) :
    members.text? key = some s := by
  rw [text?, h]
  rfl

theorem text?_of_map {s? : Option String} (h : members.get? key = s?.map .text) :
    members.text? key = s? := by
  rw [text?, h]
  cases s? <;> rfl

theorem flag?_of_get? {b : Bool} (h : members.get? key = some (.flag b)) :
    members.flag? key = some b := by
  rw [flag?, h]
  rfl

theorem flag?_of_map {b? : Option Bool} (h : members.get? key = b?.map .flag) :
    members.flag? key = b? := by
  rw [flag?, h]
  cases b? <;> rfl

theorem nat?_of_get? {n : Nat} (h : members.get? key = some (.ofNat n)) :
    members.nat? key = some n := by
  rw [nat?, h]
  rfl

theorem items?_of_get? {items : List Value} (h : members.get? key = some (.list items)) :
    members.items? key = some items := by
  rw [items?, h]
  rfl

theorem texts?_of_get? {texts : List String} (h : members.get? key = some (.texts texts)) :
    members.texts? key = some texts := by
  simp [texts?, items?_of_get? h, List.filterMap_map]

end Members

namespace Record.Fits

variable {r : Record} {members : Members} {key : String} {v : Value} {f : Field}

theorem accept (fits : r.Fits members) (field : r.field? key = some f)
    (found : members.get? key = some v) : f.form.accept v = .ok v :=
  fits.accepted _ (Members.mem_of_get? found) f field

theorem exists_get? (fits : r.Fits members) (field : r.field? key = some f)
    (required : f.required = true) : ∃ v, members.get? key = some v := by
  have named : f.name = key := by simpa using List.find?_some field
  rw [← Option.isSome_iff_exists, ← Members.contains_eq_isSome, ← named]
  exact fits.complete f (List.mem_of_find?_eq_some field) required

/-- Whether members fit a record depends on what is found under the names of its fields. -/
theorem of_same {others : Members} (fits : r.Fits members) (distinct : (others.map (·.1)).Nodup)
    (same : ∀ name ∈ r.fields.map (·.name), others.get? name = members.get? name) :
    r.Fits others where
  accepted := by
    intro m hm f field
    have known : m.1 ∈ r.fields.map (·.name) := by
      by_contra unknown
      rw [field?_eq_none_iff.mpr unknown] at field
      cases field
    exact fits.accept field ((same _ known).symm.trans (Members.get?_of_mem distinct hm))
  complete := by
    intro f hf required
    rw [Members.contains_eq_isSome, same _ (List.mem_map_of_mem hf),
      ← Members.contains_eq_isSome]
    exact fits.complete f hf required

section Known

variable {required : Bool}

theorem text_getD (fits : r.Fits members) (field : r.field? key = some ⟨key, required, .text⟩)
    (default : String) : Value.text ((members.text? key).getD default) =
      (members.get? key).getD (.text default) := by
  refine Members.write_getD_read (fun v found => ?_) default
  obtain ⟨_, s, rfl⟩ := Form.accept_text_iff.mp (fits.accept field found)
  exact ⟨s, rfl, rfl⟩

/-- A text that must be there is written as it stood. -/
theorem text_needed (fits : r.Fits members) (field : r.field? key = some (.needed key .text))
    (default : String) : some (Value.text ((members.text? key).getD default)) =
      members.get? key := by
  obtain ⟨v, found⟩ := fits.exists_get? field rfl
  rw [fits.text_getD field, found]
  rfl

theorem flag_getD (fits : r.Fits members) (field : r.field? key = some ⟨key, required, .flag⟩)
    (default : Bool) : Value.flag ((members.flag? key).getD default) =
      (members.get? key).getD (.flag default) := by
  refine Members.write_getD_read (fun v found => ?_) default
  obtain ⟨_, b, rfl⟩ := Form.accept_flag_iff.mp (fits.accept field found)
  exact ⟨b, rfl, rfl⟩

theorem nat_getD (fits : r.Fits members) {bits : Nat} {name : String}
    (field : r.field? key = some ⟨key, required, .natural bits name⟩) (default : Nat) :
    Value.ofNat ((members.nat? key).getD default) =
      (members.get? key).getD (.ofNat default) := by
  refine Members.write_getD_read (fun v found => ?_) default
  obtain ⟨_, n, rfl, _⟩ := Form.accept_natural_iff.mp (fits.accept field found)
  exact ⟨n, rfl, rfl⟩

theorem nat_lt (fits : r.Fits members) {bits : Nat} {name : String}
    (field : r.field? key = some ⟨key, required, .natural bits name⟩) {default : Nat}
    (small : default < 2 ^ bits) : (members.nat? key).getD default < 2 ^ bits := by
  cases found : members.get? key with
  | none => simpa [Members.nat?, found] using small
  | some v =>
    obtain ⟨_, n, rfl, bounded⟩ := Form.accept_natural_iff.mp (fits.accept field found)
    simpa [Members.nat?, found, Value.ofNat] using bounded

/-- A list of texts that must be there is written as it stood. -/
theorem texts_needed (fits : r.Fits members)
    (field : r.field? key = some (.needed key (.list .text))) :
    some (Value.texts ((members.texts? key).getD [])) = members.get? key := by
  obtain ⟨v, found⟩ := fits.exists_get? field rfl
  obtain ⟨texts, rfl⟩ := Form.exists_texts_of_accept (fits.accept field found)
  rw [Members.texts?_of_get? found, found, Option.getD_some]

/-- A list of texts that may be there is written as it stood unless it is null. -/
theorem texts?_map (fits : r.Fits members)
    (field : r.field? key = some ⟨key, required, .optional (.list .text)⟩) :
    (members.texts? key).map Value.texts = members.present? key := by
  rw [Members.present?_eq_filter]
  cases found : members.get? key with
  | none => simp [Members.texts?, Members.items?, found]
  | some v =>
    rcases Form.accept_optional_iff.mp (fits.accept field found) with ⟨rfl, _⟩ | ⟨there, accepts⟩
    · simp [Members.texts?, Members.items?, found, Option.filter_some, Value.isNull]
    · obtain ⟨texts, rfl⟩ := Form.exists_texts_of_accept accepts
      simp [Members.texts?_of_get? found, Option.filter_some, Value.isNull_eq_false_iff.mpr there]

theorem text?_map (fits : r.Fits members)
    (field : r.field? key = some ⟨key, required, .optional .text⟩) :
    (members.text? key).map Value.text = members.present? key := by
  refine Members.map_write_read fun v found => ?_
  rcases Form.accept_optional_iff.mp (fits.accept field found) with ⟨rfl, _⟩ | ⟨there, accepts⟩
  · exact .inl ⟨rfl, rfl⟩
  · obtain ⟨_, s, rfl⟩ := Form.accept_text_iff.mp accepts
    exact .inr ⟨there, s, rfl, rfl⟩

theorem flag?_map (fits : r.Fits members)
    (field : r.field? key = some ⟨key, required, .optional .flag⟩) :
    (members.flag? key).map Value.flag = members.present? key := by
  refine Members.map_write_read fun v found => ?_
  rcases Form.accept_optional_iff.mp (fits.accept field found) with ⟨rfl, _⟩ | ⟨there, accepts⟩
  · exact .inl ⟨rfl, rfl⟩
  · obtain ⟨_, b, rfl⟩ := Form.accept_flag_iff.mp accepts
    exact .inr ⟨there, b, rfl, rfl⟩

end Known

end Record.Fits

/-- A value under the name of a field, which has its form and is there where it must be. -/
structure Field.Suits (f : Field) (entry : String × Option Value) : Prop where
  name : entry.1 = f.name
  accepted : ∀ v ∈ entry.2, f.form.accept v = .ok v
  complete : f.required = true → entry.2.isSome = true

namespace Field

variable {name : String} {form : Form}

theorem suits_some {required : Bool} {v : Value} (h : form.accept v = .ok v) :
    Suits ⟨name, required, form⟩ (name, some v) :=
  ⟨rfl, fun _ same => Option.some.inj same ▸ h, fun _ => rfl⟩

theorem suits_spare {v? : Option Value} (h : ∀ v ∈ v?, form.accept v = .ok v) :
    Suits (.spare name form) (name, v?) :=
  ⟨rfl, h, fun required => by cases required⟩

end Field

/-- A record is written as named values for all its fields, of which some may be absent, and
further members under other keys. -/
structure Record.Writes (r : Record) (own : List (String × Option Value)) (extra : Members) :
    Prop where
  names : own.map (·.1) = r.fields.map (·.name)
  distinct : (r.fields.map (·.name)).Nodup
  sorted : extra.Sorted
  apart : ∀ m ∈ extra, r.field? m.1 = none

namespace Record.Writes

variable {r : Record} {own : List (String × Option Value)} {extra target : Members}

theorem distinct_own (h : r.Writes own extra) : (own.map (·.1)).Nodup :=
  h.names ▸ h.distinct

theorem apart_own (h : r.Writes own extra) : ∀ m ∈ extra, m.1 ∉ own.map (·.1) := by
  intro m hm
  rw [h.names]
  exact field?_eq_none_iff.mp (h.apart m hm)

theorem get?_field (h : r.Writes own extra) :
    ∀ entry ∈ own, (Members.ofList (Members.present own ++ extra)).get? entry.1 = entry.2 :=
  (Members.get?_ofList_present h.distinct_own h.sorted.nodup h.apart_own).1

theorem get?_other (h : r.Writes own extra) {key : String} (unknown : r.field? key = none) :
    (Members.ofList (Members.present own ++ extra)).get? key = extra.get? key := by
  refine (Members.get?_ofList_present h.distinct_own h.sorted.nodup h.apart_own).2 key ?_
  rw [h.names]
  exact field?_eq_none_iff.mp unknown

/-- What is written is known by its lookups. -/
theorem eq_of_get? (h : r.Writes own extra) (sorted : target.Sorted)
    (fields : ∀ entry ∈ own, target.get? entry.1 = entry.2)
    (others : ∀ key, r.field? key = none → target.get? key = extra.get? key) :
    Members.ofList (Members.present own ++ extra) = target := by
  refine (Members.ofList_spec _).1.ext sorted fun key => ?_
  by_cases known : key ∈ own.map (·.1)
  · obtain ⟨entry, hentry, rfl⟩ := List.mem_map.mp known
    rw [h.get?_field entry hentry, fields entry hentry]
  · rw [h.names] at known
    have unknown : r.field? key = none := field?_eq_none_iff.mpr known
    rw [h.get?_other unknown, others key unknown]

/-- To write another value for one field is to put it in afterwards. -/
theorem eq_insert {changed : List (String × Option Value)} (h : r.Writes own extra)
    (h' : r.Writes changed extra) {name : String} {v : Value} (known : (name, some v) ∈ changed)
    (same : ∀ entry ∈ changed, entry.1 ≠ name → entry ∈ own) :
    Members.ofList (Members.present changed ++ extra) =
      (Members.ofList (Members.present own ++ extra)).insert name v := by
  refine h'.eq_of_get? ((Members.ofList_spec _).1.insert name v) ?_ ?_
  · intro entry hentry
    rw [Members.get?_insert]
    split
    · next here =>
      exact congrArg Prod.snd (List.inj_on_of_nodup_map h'.distinct_own known hentry here)
    · next apart => exact h.get?_field entry (same entry hentry (Ne.symm apart))
  · intro key unknown
    rw [Members.get?_insert, h.get?_other unknown, if_neg]
    rintro rfl
    refine field?_eq_none_iff.mp unknown ?_
    rw [← h'.names]
    exact List.mem_map_of_mem known

/-- The further members are those under keys that are no fields. -/
theorem filter_unknown (h : r.Writes own extra) :
    (Members.ofList (Members.present own ++ extra)).filter (fun m => (r.field? m.1).isNone) =
      extra := by
  have sorted := (Members.ofList_spec (Members.present own ++ extra)).1
  refine (sorted.filter _).ext h.sorted fun key => ?_
  cases unknown : r.field? key with
  | none =>
    rw [Members.get?_filter_of_kept sorted.nodup fun _ => by simp [unknown], h.get?_other unknown]
  | some f =>
    have absent : extra.get? key = none := by
      refine Members.get?_eq_none_iff.mpr fun there => ?_
      obtain ⟨m, hm, rfl⟩ := List.mem_map.mp there
      rw [h.apart m hm] at unknown
      cases unknown
    rw [Members.get?_filter sorted.nodup, absent]
    simp [unknown]

/-- Values that suit the fields fit a record, whatever the further members are. -/
theorem fits (h : r.Writes own extra)
    (suit : List.Forall₂ (fun entry f => f.Suits entry) own r.fields) :
    r.Fits (Members.ofList (Members.present own ++ extra)) where
  accepted := by
    intro m hm f hf
    rcases List.mem_append.mp ((Members.ofList_spec _).2 m hm) with known | further
    · obtain ⟨g, hg, suits⟩ := exists_mem_of_forall₂ suit.flip _ (Members.mem_present.mp known)
      have named : f.name = m.1 := by simpa using List.find?_some hf
      obtain rfl : f = g :=
        List.inj_on_of_nodup_map h.distinct (List.mem_of_find?_eq_some hf) hg
          (named.trans suits.name)
      exact suits.accepted m.2 rfl
    · rw [h.apart m further] at hf
      cases hf
  complete := by
    intro f hf required
    obtain ⟨entry, hentry, suits⟩ := exists_mem_of_forall₂ suit f hf
    rw [Members.contains_eq_isSome, ← suits.name, h.get?_field entry hentry]
    exact suits.complete required

end Record.Writes

end WorkflowCompiler.Json
