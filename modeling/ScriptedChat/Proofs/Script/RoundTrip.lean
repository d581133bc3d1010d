import ScriptedChat.Proofs.Json.Rearranged
import ScriptedChat.Script.Document

/-!
A script document that was written is read back as it was, and so is every rearrangement of it.
Records read their fields by name, each written once, and lists read their items in order. A
block does the same with its own members and leaves the others to its kind, which finds them
whatever stands between them.
-/
namespace ScriptedChat

open Json Shape Decoder

namespace Decoder

theorem integer_of_mem {low high n : Int} (hlow : low ≤ n) (hhigh : n < high) :
    integer low high (.integer n) = .ok n :=
  if_pos ⟨hlow, hhigh⟩

theorem uint32_nat (n : UInt32) : uint32 (.nat n.toNat) = .ok n := by
  have hlow : (0 : Int) ≤ n.toNat := Int.natCast_nonneg _
  have hhigh : (n.toNat : Int) < UInt32.size := by
    have := n.toNat_lt
    simp only [UInt32.size]
    omega
  rw [uint32, Json.nat, integer_of_mem hlow hhigh]
  simp [Except.map]

theorem recovers_uint32 (n : UInt32) : uint32.Recovers (.nat n.toNat) n :=
  recovers_integer (uint32_nat n)

theorem recovers_text (s : String) : text.Recovers (.string s) s := recovers_string rfl

end Decoder

theorem Choice.recovers (c : Choice) : decode.Recovers c.toJson c := by
  have hknows : shape.Knows ["text", "next"] := knows_field.both knows_field
  refine recovers_object hknows (by simp [Json.nat]) fun n hn => gathers_map_iff.2 ⟨(_, _), ?_, rfl⟩
  refine (gathers_both_iff knows_field knows_field (by simp)).2 ⟨?_, ?_⟩
  · exact gathers_written (recovers_text c.text) rfl hn
  · exact gathers_written (recovers_uint32 c.next) rfl hn

theorem EntryPoint.recovers (e : EntryPoint) : decode.Recovers e.toJson e := by
  have hknows : shape.Knows ["key", "state"] := knows_field.both knows_field
  refine recovers_object hknows (by simp [Json.nat]) fun n hn => gathers_map_iff.2 ⟨(_, _), ?_, rfl⟩
  refine (gathers_both_iff knows_field knows_field (by simp)).2 ⟨?_, ?_⟩
  · exact gathers_written (recovers_text e.key) rfl hn
  · exact gathers_written (recovers_uint32 e.state) rfl hn

theorem Mailing.recovers (m : Mailing) : decode.Recovers m.toJson m := by
  have hrest : ((field "entry_key" text).both (field "required_state" uint32)).Knows
      ["entry_key", "required_state"] := knows_field.both knows_field
  have hknows : shape.Knows ["name", "entry_key", "required_state"] := knows_field.both hrest
  refine recovers_object hknows (by simp [Json.nat]) fun n hn =>
    gathers_map_iff.2 ⟨(_, _, _), ?_, rfl⟩
  refine (gathers_both_iff knows_field hrest (by simp)).2 ⟨?_, ?_⟩
  · exact gathers_written (recovers_text m.name) rfl hn
  · refine (gathers_both_iff knows_field knows_field (by simp)).2 ⟨?_, ?_⟩
    · exact gathers_written (recovers_text m.entryKey) rfl hn
    · exact gathers_written (recovers_uint32 m.requiredState) rfl hn

namespace Block

/-- The names of the members that every block has. -/
def ownNames : List String := ["state", "next_state", "title", "text"]

/-- What the members of a list do to those that were met before: each of the block's own goes
into its field, and all others are kept for the kind. -/
structure Meets (slots last : Slots) (l : List (String × Json)) : Prop where
  state : (field "state" Decoder.uint32).Fills slots.state l last.state
  next : (field "next_state" Decoder.uint32).Fills slots.next l last.next
  title : (field "title" Decoder.text (some "")).Fills slots.title l last.title
  text : (field "text" Decoder.text (some "")).Fills slots.text l last.text
  others : last.others = slots.others ++ l.filter (·.1 ∉ ownNames)
  sound : ∀ m ∈ l, m.1 ∉ ownNames → m.2.isSound = true

/-- What a field of the block holds after a member. -/
def after {α : Type} (name : String) (value : Decoder α) (slot : Option α) (m : String × Json) :
    Except DecodeFault (Option α) :=
  if m.1 = name then once slot value m.2 else .ok slot

theorem after_eq_take {α : Type} {name : String} {value : Decoder α} {default slot : Option α}
    {m : String × Json} : after name value slot m = (field name value default).take slot m := by
  by_cases h : m.1 = name
  · simp [after, once, take, field, h]
  · simp [after, take, field, h]

/-- One member goes where its name says. -/
theorem member_eq {slots : Slots} {key : String} {j : Json}
    (h : key ∉ ownNames → j.isSound = true) : member slots (key, j) = (do
      let state ← after "state" Decoder.uint32 slots.state (key, j)
      let next ← after "next_state" Decoder.uint32 slots.next (key, j)
      let title ← after "title" Decoder.text slots.title (key, j)
      let text ← after "text" Decoder.text slots.text (key, j)
      return ⟨state, next, title, text,
        slots.others ++ [(key, j)].filter (·.1 ∉ ownNames)⟩) := by
  unfold member
  split
  · obtain rfl : key = "state" := by assumption
    simp [after, ownNames]
  · obtain rfl : key = "next_state" := by assumption
    simp [after, ownNames]
  · obtain rfl : key = "title" := by assumption
    simp [after, ownNames]
  · obtain rfl : key = "text" := by assumption
    simp [after, ownNames]
  · rename_i hstate hnext htitle htext
    have hown : key ∉ ownNames := by simp_all [ownNames]
    have hdocument : Decoder.document j = .ok j := if_pos (h hown)
    simp_all [after]

theorem Meets.foldlM {slots last : Slots} {l : List (String × Json)} (h : Meets slots last l) :
    l.foldlM member slots = .ok last := by
  induction l generalizing slots with
  | nil =>
    obtain ⟨state, next, title, text, others⟩ := last
    obtain ⟨hstate, hnext, htitle, htext, hothers, _⟩ := h
    cases hstate; cases hnext; cases htitle; cases htext
    obtain rfl : others = slots.others := by simpa using hothers
    rfl
  | cons m rest ih =>
    obtain ⟨key, j⟩ := m
    obtain ⟨⟨state, hstate, hstates⟩, ⟨next, hnext, hnexts⟩, ⟨title, htitle, htitles⟩,
      ⟨text, htext, htexts⟩, hothers, hsound⟩ := h
    have hmember : member slots (key, j) = .ok ⟨state, next, title, text,
        slots.others ++ [(key, j)].filter (·.1 ∉ ownNames)⟩ := by
      rw [member_eq (hsound _ List.mem_cons_self), after_eq_take.trans hstate,
        after_eq_take.trans hnext, after_eq_take.trans htitle, after_eq_take.trans htext]
      rfl
    rw [List.foldlM_cons, hmember, Outcome.ok_bind]
    refine ih ⟨hstates, hnexts, htitles, htexts, ?_, ?_⟩
    · rw [hothers, List.append_assoc, ← List.filter_append, List.singleton_append]
    · exact fun m hm => hsound m (List.mem_cons_of_mem _ hm)

/-- A block is read from the values of its own members, from its kind and from sound values
beside them. -/
theorem decode_of_gathers {l : List (String × Json)} {b : Block}
    (hstate : (field "state" Decoder.uint32).Gathers l b.state)
    (hnext : (field "next_state" Decoder.uint32).Gathers l b.next)
    (htitle : (field "title" Decoder.text (some "")).Gathers l b.title)
    (htext : (field "text" Decoder.text (some "")).Gathers l b.text)
    (hsound : ∀ m ∈ l, m.1 ∉ ownNames → m.2.isSound = true)
    (hkind : decodeKind (l.filter (·.1 ∉ ownNames)) = .ok b.kind) :
    decode (.object l) = .ok b := by
  obtain ⟨state, hstates, hstate⟩ := hstate
  obtain ⟨next, hnexts, hnext⟩ := hnext
  obtain ⟨title, htitles, htitle⟩ := htitle
  obtain ⟨text, htexts, htext⟩ := htext
  have hmeets : Meets {} ⟨state, next, title, text, l.filter (·.1 ∉ ownNames)⟩ l :=
    ⟨hstates, hnexts, htitles, htexts, rfl, hsound⟩
  have hstate' : missing state = .ok b.state := by
    cases state <;> exact hstate
  have hnext' : missing next = .ok b.next := by
    cases next <;> exact hnext
  have htitle' : Option.getD title "" = b.title := by
    cases title <;> exact Except.ok.inj htitle
  have htext' : Option.getD text "" = b.text := by
    cases text <;> exact Except.ok.inj htext
  simp only [decode, hmeets.foldlM, Outcome.ok_bind, hstate', hnext', htitle', htext', hkind,
    Outcome.pure_eq]

theorem single_eq {name : String} {j : Json} {l : List (String × Json)}
    (h : valuesOf name l = [j]) : single name l = .ok j := by
  rw [valuesOf, List.map_eq_singleton_iff] at h
  obtain ⟨m, hm, rfl⟩ := h
  simp only [single, Bool.beq_eq_decide_eq, hm]

theorem valuesOf_others {name : String} (h : name ∉ ownNames) (l : List (String × Json)) :
    valuesOf name (l.filter (·.1 ∉ ownNames)) = valuesOf name l := by
  rw [valuesOf, valuesOf, List.filter_filter]
  congr 2
  funext m
  by_cases hm : m.1 = name
  · simp [hm, h]
  · simp [hm]

theorem isSound_choices (choices : List Choice) :
    (Json.list Choice.toJson choices).isSound = true := by
  rw [Json.list, Json.isSound, allSound_iff]
  intro j hj
  obtain ⟨c, _, rfl⟩ := List.mem_map.1 hj
  rfl

theorem isSound_toJson (b : Block) : b.toJson.isSound = true := by
  obtain ⟨state, next, title, text, kind⟩ := b
  cases kind with
  | message => rfl
  | question => rfl
  | selection choices =>
    simp [toJson, kindMembers, Json.isSound, allMembersSound, Json.nat, isSound_choices]

/-- The members that every block has, as they are written. -/
def ownMembers (b : Block) : List (String × Json) :=
  [("state", .nat b.state.toNat), ("next_state", .nat b.next.toNat), ("title", .string b.title),
    ("text", .string b.text)]

/-- The kind of a block is found wherever its members stand. -/
theorem decodeKind_rearranged {b : Block} {n : List (String × Json)}
    (hn : MembersRearranged (b.ownMembers ++ kindMembers b.kind) n) :
    decodeKind (n.filter (·.1 ∉ ownNames)) = .ok b.kind := by
  have hsingle : ∀ name j, name ∉ ownNames →
      valuesOf name (b.ownMembers ++ kindMembers b.kind) = [j] →
        ∃ k, single name (n.filter (·.1 ∉ ownNames)) = .ok k ∧ j.Rearranged k := by
    intro name j hname hj
    obtain ⟨k, hk, hjk⟩ := hn.valuesOf_singleton hj
    exact ⟨k, single_eq ((valuesOf_others hname n).trans hk), hjk⟩
  obtain ⟨state, next, title, text, kind⟩ := b
  cases kind with
  | message =>
    obtain ⟨_, htype, hk⟩ := hsingle "type" (.string "message") (by simp [ownNames]) rfl
    rw [decodeKind, htype, hk.of_string]
    rfl
  | question =>
    obtain ⟨_, htype, hk⟩ := hsingle "type" (.string "question") (by simp [ownNames]) rfl
    rw [decodeKind, htype, hk.of_string]
    rfl
  | selection choices =>
    obtain ⟨_, htype, hk⟩ := hsingle "type" (.string "selection") (by simp [ownNames]) rfl
    obtain ⟨options, hoptions, ho⟩ := hsingle "options" (.list Choice.toJson choices)
      (by simp [ownNames]) rfl
    have hchoices : decodeChoices options = .ok choices := by
      rw [decodeChoices, recovers_list (fun c _ => c.recovers) options ho]
    rw [decodeKind, htype, hk.of_string, hoptions]
    simp [BlockType.decode, hchoices]

theorem recovers (b : Block) : decode.Recovers b.toJson b := by
  intro k hk
  have hsound := hk.isSound b.isSound_toJson
  obtain ⟨n, rfl, hn⟩ := hk.of_object
  rw [Json.isSound, allMembersSound_iff] at hsound
  refine decode_of_gathers ?_ ?_ ?_ ?_ (fun m hm _ => hsound m hm) (decodeKind_rearranged hn)
  · exact gathers_written (recovers_uint32 b.state) (by cases b.kind <;> rfl) hn
  · exact gathers_written (recovers_uint32 b.next) (by cases b.kind <;> rfl) hn
  · exact gathers_written (recovers_text b.title) (by cases b.kind <;> rfl) hn
  · exact gathers_written (recovers_text b.text) (by cases b.kind <;> rfl) hn

end Block

namespace ScriptDocument

theorem shape_knows : shape.Knows ["entry_points", "blocks", "mailings"] :=
  knows_field.both (knows_field.both knows_field)

/-- A document is found list by list. -/
theorem gathers_iff {n : List (String × Json)} {d : ScriptDocument} : shape.Gathers n d ↔
    (field "entry_points" (.list EntryPoint.decode)).Gathers n d.entries ∧
      (field "blocks" (.list Block.decode)).Gathers n d.blocks ∧
        (field "mailings" (.list Mailing.decode) (some [])).Gathers n d.mailings := by
  have hrest : ((field "blocks" (.list Block.decode)).both
      (field "mailings" (.list Mailing.decode) (some []))).Knows ["blocks", "mailings"] :=
    knows_field.both knows_field
  rw [shape, gathers_map_iff, ← gathers_both_iff knows_field knows_field (by simp),
    ← gathers_both_iff knows_field hrest (by simp)]
  constructor
  · intro h
    obtain ⟨_, hgathers, rfl⟩ := h
    exact hgathers
  · intro h
    exact ⟨_, h, rfl⟩

/-- What is written for a bot is read back, whatever order its members come in. -/
theorem recovers (d : ScriptDocument) : decode.Recovers d.toJson d := by
  refine recovers_object shape_knows (by simp [members, Json.list]) fun n hn =>
    gathers_iff.2 ⟨?_, ?_, ?_⟩
  · exact gathers_written (recovers_list fun e _ => e.recovers) rfl hn
  · exact gathers_written (recovers_list fun b _ => b.recovers) rfl hn
  · exact gathers_written (recovers_list fun m _ => m.recovers) rfl hn

/-- Entry points and blocks alone are read as a document without mailings. -/
theorem recovers_unmailed (entries : List EntryPoint) (blocks : List Block) :
    decode.Recovers (.object [("entry_points", .list EntryPoint.toJson entries),
      ("blocks", .list Block.toJson blocks)]) ⟨entries, blocks, []⟩ := by
  refine recovers_object shape_knows (by simp [Json.list]) fun n hn =>
    gathers_iff.2 ⟨?_, ?_, gathers_left_out rfl hn⟩
  · exact gathers_written (recovers_list fun e _ => e.recovers) rfl hn
  · exact gathers_written (recovers_list fun b _ => b.recovers) rfl hn

/-- No mailings are made up. -/
theorem mailings_eq_nil {l : List (String × Json)} {d : ScriptDocument}
    (h : decode (.object l) = .ok d) (hl : ∀ m ∈ l, m.1 ≠ "mailings") : d.mailings = [] := by
  obtain ⟨_, hgathers⟩ := (decode_object_iff shape_knows).1 h
  obtain ⟨_, _, hmailings⟩ := gathers_iff.1 hgathers
  have hgiven := gathers_field_iff.1 hmailings
  rw [valuesOf_eq_nil_iff.2 hl] at hgiven
  cases hgiven with
  | absent hdefault => exact (Option.some.inj hdefault).symm

end ScriptDocument

end ScriptedChat
