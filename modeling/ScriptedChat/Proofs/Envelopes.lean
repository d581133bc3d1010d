import ScriptedChat.Envelope
import ScriptedChat.Proofs.Script.RoundTrip

/-!
The format of the bus. An envelope that is taken apart into its topic and its payload is put
together again as it was, also when the payload comes back rearranged, and its payload is no
envelope under the other topic. What a topic reads as an envelope besides its own payload is
told by the spellings: records as objects in any order or as arrays of their fields, buttons
and credentials left out when they say nothing, a credential as null, a command as an object.
-/
namespace ScriptedChat

open Json Shape Decoder

namespace Decoder

section Exact
variable {j : Json}

theorem text_ok_iff {s : String} : text j = .ok s ↔ j = .string s := by
  cases j <;> simp [text]

theorem integer_ok_iff {low high n : Int} :
    integer low high j = .ok n ↔ j = .integer n ∧ low ≤ n ∧ n < high := by
  cases j with
  | integer k =>
    by_cases hk : low ≤ k ∧ k < high
    · rw [integer, if_pos hk, Except.ok.injEq, Json.integer.injEq]
      exact ⟨fun h => ⟨h, h ▸ hk⟩, And.left⟩
    · rw [integer, if_neg hk]
      exact iff_of_false nofun fun h => hk (Json.integer.inj h.1 ▸ h.2)
  | _ => simp [integer]

theorem int64_ok_iff {n : Int64} : int64 j = .ok n ↔ j = .integer n.toInt := by
  have hlow : Int64.minValue.toInt ≤ n.toInt := Int64.minValue_le_toInt n
  have hmax : Int64.maxValue.toInt = 9223372036854775807 := by decide
  have hhigh : n.toInt < Int64.maxValue.toInt + 1 := by
    have := Int64.toInt_le n
    omega
  rw [int64, Outcome.map_ok_iff]
  constructor
  · intro h
    obtain ⟨k, hk, rfl⟩ := h
    obtain ⟨rfl, hklow, hkhigh⟩ := integer_ok_iff.1 hk
    rw [Int64.toInt_ofInt_of_le hklow (by omega)]
  · intro h
    exact ⟨n.toInt, integer_ok_iff.2 ⟨h, hlow, hhigh⟩, Int64.ofInt_toInt n⟩

variable {α : Type} {value : Decoder α} {toJson : α → Json}

theorem list_ok_iff (h : ∀ j a, value j = .ok a ↔ j = toJson a) {l : List α} :
    list value j = .ok l ↔ j = .list toJson l := by
  cases j with
  | array items =>
    rw [list, Json.list, Json.array.injEq]
    induction items generalizing l with
    | nil => cases l <;> simp
    | cons j items ih =>
      simp only [List.mapM_cons, Outcome.bind_ok_iff, Outcome.pure_eq, Except.ok.injEq, h, ih]
      cases l <;> simp
  | _ => simp [list, Json.list]

theorem nullable_text_ok_iff {t : Option String} :
    nullable text j = .ok t ↔ j = .option .string t := by
  cases j <;> cases t <;> simp [nullable, text, Json.option, Except.map]

end Exact

end Decoder

/-- The ways to say a value that may be left out. -/
def Said {α : Type} (toJson : α → Json) (default a : α) (values : List Json) : Prop :=
  values = [toJson a] ∨ values = [] ∧ a = default

section Given
variable {α : Type} {value : Decoder α} {toJson : α → Json} {values : List Json} {a : α}

theorem given_required_iff : Given value none values a ↔ ∃ j, values = [j] ∧ value j = .ok a := by
  constructor
  · intro h
    cases h with
    | absent hdefault => cases hdefault
    | once hj => exact ⟨_, rfl, hj⟩
  · intro h
    obtain ⟨j, rfl, hj⟩ := h
    exact .once hj

theorem given_exact_iff (h : ∀ j a, value j = .ok a ↔ j = toJson a) :
    Given value none values a ↔ values = [toJson a] := by
  simp only [given_required_iff, h, exists_eq_right]

theorem given_said_iff (h : ∀ j a, value j = .ok a ↔ j = toJson a) {default : α} :
    Given value (some default) values a ↔ Said toJson default a values := by
  constructor
  · intro hgiven
    cases hgiven with
    | absent hdefault => exact .inr ⟨rfl, (Option.some.inj hdefault).symm⟩
    | once hj => exact .inl (congrArg (fun j => [j]) ((h _ _).1 hj))
  · intro hsaid
    rcases hsaid with rfl | ⟨rfl, rfl⟩
    · exact .once ((h _ _).2 rfl)
    · exact .absent rfl

end Given

theorem Decoder.texts_ok_iff (j : Json) (l : List String) :
    Decoder.list Decoder.text j = .ok l ↔ j = .list .string l :=
  list_ok_iff fun _ _ => text_ok_iff

namespace OutboundMessage

/-- The documents that are read as a message. -/
def Spelled (m : OutboundMessage) : Json → Prop
  | .object l => (∀ x ∈ l, Passes ["bot_uuid", "user_id", "text", "buttons"] x) ∧
      valuesOf "bot_uuid" l = [.string m.bot] ∧ valuesOf "user_id" l = [.integer m.user.toInt] ∧
      valuesOf "text" l = [.string m.text] ∧
      Said (.list .string) [] m.buttons (valuesOf "buttons" l)
  | .array items => ∃ rest,
      items = .string m.bot :: .integer m.user.toInt :: .string m.text :: rest ∧
        Said (.list .string) [] m.buttons rest
  | _ => False

theorem shape_knows : shape.Knows ["bot_uuid", "user_id", "text", "buttons"] :=
  knows_field.both (knows_field.both (knows_field.both knows_field))

theorem fields_injective : ∀ a a' : String × UserId × String × List String,
    (⟨a.1, a.2.1, a.2.2.1, a.2.2.2⟩ : OutboundMessage) = ⟨a'.1, a'.2.1, a'.2.2.1, a'.2.2.2⟩ →
      a = a' := by
  intro a a' h
  obtain ⟨_, _, _, _⟩ := a
  cases h
  rfl

/-- A message is found field by field. -/
theorem gathers_iff {l : List (String × Json)} {m : OutboundMessage} : shape.Gathers l m ↔
    (field "bot_uuid" Decoder.text).Gathers l m.bot ∧ (field "user_id" int64).Gathers l m.user ∧
      (field "text" Decoder.text).Gathers l m.text ∧
        (field "buttons" (.list Decoder.text) (some [])).Gathers l m.buttons := by
  have hsaid : ((field "text" Decoder.text).both
      (field "buttons" (.list Decoder.text) (some []))).Knows ["text", "buttons"] :=
    knows_field.both knows_field
  have hrest : ((field "user_id" int64).both ((field "text" Decoder.text).both
      (field "buttons" (.list Decoder.text) (some [])))).Knows ["user_id", "text", "buttons"] :=
    knows_field.both hsaid
  refine (gathers_map_of_injective fields_injective
    (a := (m.bot, m.user, m.text, m.buttons))).trans ?_
  rw [gathers_both_iff knows_field hrest (by simp), gathers_both_iff knows_field hsaid (by simp),
    gathers_both_iff knows_field knows_field (by simp)]

theorem row_iff {items : List Json} {m : OutboundMessage} : shape.row items = .ok (m, []) ↔
    ∃ rest, items = .string m.bot :: .integer m.user.toInt :: .string m.text :: rest ∧
      Given (.list Decoder.text) (some []) rest m.buttons := by
  refine (row_map_of_injective fields_injective (a := (m.bot, m.user, m.text, m.buttons))).trans ?_
  simp only [row_both_iff, row_required_iff, row_last_iff, text_ok_iff, int64_ok_iff,
    exists_eq_right]
  constructor
  · intro h
    obtain ⟨_, rfl, _, rfl, rest, rfl, hrest⟩ := h
    exact ⟨rest, rfl, hrest⟩
  · intro h
    obtain ⟨rest, rfl, hrest⟩ := h
    exact ⟨_, rfl, _, rfl, rest, rfl, hrest⟩

theorem decode_ok_iff {j : Json} {m : OutboundMessage} : decode j = .ok m ↔ m.Spelled j := by
  cases j with
  | object l =>
    rw [decode, decode_object_iff shape_knows, gathers_iff]
    simp only [gathers_field_iff, given_exact_iff fun _ _ => text_ok_iff,
      given_exact_iff fun _ _ => int64_ok_iff, given_said_iff texts_ok_iff, Spelled]
  | array items =>
    rw [decode, decode_array_iff, row_iff]
    simp only [given_said_iff texts_ok_iff, Spelled]
  | _ => exact iff_of_false nofun id

theorem recovers (m : OutboundMessage) : decode.Recovers m.toJson m := by
  refine recovers_object shape_knows (by simp [Json.list]) fun n hn =>
    gathers_iff.2 ⟨?_, ?_, ?_, ?_⟩
  · exact gathers_written (recovers_text m.bot) rfl hn
  · exact gathers_written (recovers_integer (int64_ok_iff.2 rfl)) rfl hn
  · exact gathers_written (recovers_text m.text) rfl hn
  · exact gathers_written (recovers_list fun s _ => recovers_text s) rfl hn

end OutboundMessage

namespace SessionCommand

theorem ofName_ok_iff {name : String} {c : SessionCommand} :
    ofName name = .ok c ↔ name = c.name := by
  unfold ofName
  split
  · rename_i hname
    subst hname
    cases c <;> simp [SessionCommand.name]
  · split
    · rename_i hname
      subst hname
      cases c <;> simp [SessionCommand.name]
    · cases c <;> simp_all [SessionCommand.name]

/-- The documents that are read as a command. -/
def Spelled (c : SessionCommand) (j : Json) : Prop :=
  j = .string c.name ∨ j = .object [(c.name, .null)]

theorem decode_ok_iff {j : Json} {c : SessionCommand} : decode j = .ok c ↔ c.Spelled j := by
  unfold decode Spelled
  split
  · simp [ofName_ok_iff]
  · simp [ofName_ok_iff]
  · rename_i hstring hobject
    refine iff_of_false nofun fun h => ?_
    rcases h with h | h
    · exact hstring _ h
    · exact hobject _ h

end SessionCommand

namespace LifecycleCommand

/-- The documents that are read as an order. -/
def Spelled (c : LifecycleCommand) : Json → Prop
  | .object l => (∀ x ∈ l, Passes ["bot_uuid", "command", "token"] x) ∧
      valuesOf "bot_uuid" l = [.string c.bot] ∧
      (∃ j, valuesOf "command" l = [j] ∧ c.command.Spelled j) ∧
      Said (.option .string) none c.token (valuesOf "token" l)
  | .array items => ∃ j rest, items = .string c.bot :: j :: rest ∧ c.command.Spelled j ∧
      Said (.option .string) none c.token rest
  | _ => False

theorem shape_knows : shape.Knows ["bot_uuid", "command", "token"] :=
  knows_field.both (knows_field.both knows_field)

theorem fields_injective : ∀ a a' : String × SessionCommand × Option String,
    (⟨a.1, a.2.1, a.2.2⟩ : LifecycleCommand) = ⟨a'.1, a'.2.1, a'.2.2⟩ → a = a' := by
  intro a a' h
  obtain ⟨_, _, _⟩ := a
  cases h
  rfl

/-- An order is found field by field. -/
theorem gathers_iff {l : List (String × Json)} {c : LifecycleCommand} : shape.Gathers l c ↔
    (field "bot_uuid" text).Gathers l c.bot ∧
      (field "command" SessionCommand.decode).Gathers l c.command ∧
        (field "token" (.nullable text) (some none)).Gathers l c.token := by
  have hrest : ((field "command" SessionCommand.decode).both
      (field "token" (.nullable text) (some none))).Knows ["command", "token"] :=
    knows_field.both knows_field
  refine (gathers_map_of_injective fields_injective (a := (c.bot, c.command, c.token))).trans ?_
  rw [gathers_both_iff knows_field hrest (by simp),
    gathers_both_iff knows_field knows_field (by simp)]

theorem row_iff {items : List Json} {c : LifecycleCommand} : shape.row items = .ok (c, []) ↔
    ∃ j rest, items = .string c.bot :: j :: rest ∧ c.command.Spelled j ∧
      Given (.nullable text) (some none) rest c.token := by
  refine (row_map_of_injective fields_injective (a := (c.bot, c.command, c.token))).trans ?_
  simp only [row_both_iff, row_required_iff, row_last_iff, text_ok_iff,
    SessionCommand.decode_ok_iff, exists_eq_right]
  constructor
  · intro h
    obtain ⟨_, rfl, rest, ⟨j, rfl, hj⟩, hrest⟩ := h
    exact ⟨j, rest, rfl, hj, hrest⟩
  · intro h
    obtain ⟨j, rest, rfl, hj, hrest⟩ := h
    exact ⟨_, rfl, rest, ⟨j, rfl, hj⟩, hrest⟩

theorem decode_ok_iff {j : Json} {c : LifecycleCommand} : decode j = .ok c ↔ c.Spelled j := by
  cases j with
  | object l =>
    rw [decode, decode_object_iff shape_knows, gathers_iff]
    simp only [gathers_field_iff, given_exact_iff fun _ _ => text_ok_iff, given_required_iff,
      SessionCommand.decode_ok_iff, given_said_iff fun _ _ => nullable_text_ok_iff, Spelled]
  | array items =>
    rw [decode, decode_array_iff, row_iff]
    simp only [given_said_iff fun _ _ => nullable_text_ok_iff, Spelled]
  | _ => exact iff_of_false nofun id

theorem recovers (c : LifecycleCommand) : decode.Recovers c.toJson c := by
  obtain ⟨bot, command, token⟩ := c
  have hcommand : SessionCommand.decode.Recovers (.string command.name) command :=
    recovers_string (SessionCommand.decode_ok_iff.2 (.inl rfl))
  cases token with
  | none =>
    refine recovers_object shape_knows (by simp) fun n hn => gathers_iff.2 ⟨?_, ?_, ?_⟩
    · exact gathers_written (recovers_text bot) rfl hn
    · exact gathers_written hcommand rfl hn
    · exact gathers_left_out rfl hn
  | some token =>
    refine recovers_object shape_knows (by simp) fun n hn => gathers_iff.2 ⟨?_, ?_, ?_⟩
    · exact gathers_written (recovers_text bot) rfl hn
    · exact gathers_written hcommand rfl hn
    · exact gathers_written (recovers_string rfl) rfl hn

end LifecycleCommand

theorem Topic.ofName_ok_iff {name : String} {t : Topic} : ofName name = .ok t ↔ name = t.name := by
  unfold ofName
  split
  · rename_i hname
    subst hname
    cases t <;> simp [Topic.name]
  · split
    · rename_i hname
      subst hname
      cases t <;> simp [Topic.name]
    · cases t <;> simp_all [Topic.name]

namespace Envelope

variable {e : Envelope} {t : Topic} {j : Json}

/-- The documents that are read as an envelope under its own topic. -/
def Spelled : Envelope → Json → Prop
  | .message m => m.Spelled
  | .lifecycle c => c.Spelled

/-- A payload that its topic does not read is refused as such. -/
theorem ofParts_name_cases (t : Topic) (j : Json) :
    (∃ e, ofParts t.name j = .ok e) ∨ ofParts t.name j = .error .serialization := by
  rw [ofParts, Topic.ofName_ok_iff.2 rfl, Outcome.ok_bind]
  cases t with
  | messages =>
    cases OutboundMessage.decode j with
    | ok m => exact .inl ⟨.message m, rfl⟩
    | error fault => exact .inr rfl
  | runners =>
    cases LifecycleCommand.decode j with
    | ok c => exact .inl ⟨.lifecycle c, rfl⟩
    | error fault => exact .inr rfl

theorem ofParts_name_ok_iff : ofParts t.name j = .ok e ↔ t = e.topic ∧ e.Spelled j := by
  rw [ofParts, Topic.ofName_ok_iff.2 rfl, Outcome.ok_bind]
  cases t with
  | messages =>
    cases e with
    | message m =>
      rw [Spelled, ← OutboundMessage.decode_ok_iff]
      cases OutboundMessage.decode j <;> simp [topic]
    | lifecycle c => cases OutboundMessage.decode j <;> simp [topic]
  | runners =>
    cases e with
    | message m => cases LifecycleCommand.decode j <;> simp [topic]
    | lifecycle c =>
      rw [Spelled, ← LifecycleCommand.decode_ok_iff]
      cases LifecycleCommand.decode j <;> simp [topic]

/-- What a topic reads as an envelope are the spellings of that envelope, under its own name. -/
theorem ofParts_ok_iff {name : String} :
    ofParts name j = .ok e ↔ name = e.topic.name ∧ e.Spelled j := by
  constructor
  · intro h
    obtain ⟨t, ht, _⟩ := Outcome.bind_ok_iff.1 h
    rw [Topic.ofName_ok_iff] at ht
    subst ht
    obtain ⟨rfl, hspelled⟩ := ofParts_name_ok_iff.1 h
    exact ⟨rfl, hspelled⟩
  · intro h
    obtain ⟨rfl, hspelled⟩ := h
    exact ofParts_name_ok_iff.2 ⟨rfl, hspelled⟩

/-- A payload spells its envelope in every order of its members. -/
theorem spelled_of_rearranged (h : e.payload.Rearranged j) : e.Spelled j := by
  cases e with
  | message m => exact OutboundMessage.decode_ok_iff.1 (m.recovers j h)
  | lifecycle c => exact LifecycleCommand.decode_ok_iff.1 (c.recovers j h)

/-- A payload does not spell an envelope of the other topic: it lacks a field that is required
there. -/
theorem topic_eq_of_spelled {e' : Envelope} (h : e.payload.Rearranged j) (he' : e'.Spelled j) :
    e'.topic = e.topic := by
  cases e with
  | message m =>
    cases e' with
    | message _ => rfl
    | lifecycle c =>
      obtain ⟨n, rfl, hn⟩ := h.of_object
      obtain ⟨_, _, ⟨k, hk, _⟩, _⟩ := he'
      rw [hn.valuesOf_nil rfl] at hk
      cases hk
  | lifecycle c =>
    cases e' with
    | message m =>
      obtain ⟨n, rfl, hn⟩ := h.of_object
      obtain ⟨_, _, huser, _⟩ := he'
      rw [hn.valuesOf_nil (by cases c.token <;> rfl)] at huser
      cases huser
    | lifecycle _ => rfl

/-- An envelope is made again from its topic and its payload. -/
theorem ofParts_payload (e : Envelope) : ofParts e.topic.name e.payload = .ok e :=
  ofParts_name_ok_iff.2 ⟨rfl, spelled_of_rearranged (.same _)⟩

/-- The format of the bus loses nothing and keeps its topics apart. A payload gives its envelope
under its own topic, in whatever order its members come back, and a fault under the other one. A
topic reads exactly the spellings of its envelopes; whichever was read, what is written for it
afterwards is read as the same envelope, for the same destination. -/
theorem format_lossless :
    (∀ (e : Envelope) (j : Json), e.payload.Rearranged j →
      ofParts e.topic.name j = .ok e ∧
        ∀ t : Topic, t ≠ e.topic → ofParts t.name j = .error .serialization) ∧
    (∀ (name : String) (j : Json) (e : Envelope),
      ofParts name j = .ok e ↔ name = e.topic.name ∧ e.Spelled j) ∧
    ∀ (name : String) (j : Json) (e : Envelope), ofParts name j = .ok e →
      ∃ again, ofParts name e.payload = .ok again ∧ again = e ∧
        again.destination = e.destination := by
  refine ⟨?_, fun _ _ _ => ofParts_ok_iff, ?_⟩
  · intro e j h
    refine ⟨ofParts_name_ok_iff.2 ⟨rfl, spelled_of_rearranged h⟩, ?_⟩
    intro t ht
    rcases ofParts_name_cases t j with ⟨e', he'⟩ | herror
    · obtain ⟨rfl, hspelled⟩ := ofParts_name_ok_iff.1 he'
      exact absurd (topic_eq_of_spelled h hspelled) ht
    · exact herror
  · intro name j e h
    obtain ⟨rfl, _⟩ := ofParts_ok_iff.1 h
    exact ⟨e, e.ofParts_payload, rfl, rfl⟩

/-- An order to stop as an array, with its command as an object and null for a credential, and a
message with its members in another order. -/
theorem format_lossless_stop :
    let stop : Envelope := .lifecycle ⟨"b", .stop, none⟩
    let spelling : Json := .array [.string "b", .object [("stop", .null)], .null]
    let message : Envelope := .message ⟨"b", 7, "Hello", []⟩
    let turned : Json := .object [("user_id", .integer 7), ("text", .string "Hello"),
      ("buttons", .array []), ("bot_uuid", .string "b")]
    (ofParts "runners" spelling = .ok stop ∧ ∃ again, ofParts "runners" stop.payload = .ok again ∧
      again = stop ∧ again.destination = "b") ∧
    message.payload.Rearranged turned ∧ ofParts "messages" turned = .ok message ∧
      ofParts "runners" turned = .error .serialization := by
  intro stop spelling message turned
  have hstop : ofParts "runners" spelling = .ok stop :=
    (format_lossless.2.1 "runners" spelling stop).2
      ⟨rfl, _, _, rfl, .inr rfl, .inl rfl⟩
  have hturned : message.payload.Rearranged turned :=
    .object rfl (forall₂_same _) (List.perm_append_singleton _ [_, _, _]).symm
  obtain ⟨hmessages, hrunners⟩ := format_lossless.1 message turned hturned
  exact ⟨⟨hstop, format_lossless.2.2 "runners" spelling stop hstop⟩, hturned, hmessages,
    hrunners .runners nofun⟩

end Envelope

end ScriptedChat
