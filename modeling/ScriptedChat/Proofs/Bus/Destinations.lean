import Mathlib
import ScriptedChat.Proofs.Envelopes
import ScriptedChat.Proofs.Identifiers

/-!
Destinations name receivers. The destination of a message is its bot, a colon and its user, and
whatever the text of the bot is, the last colon is the one in front of the user: a decimal number
has none. So a destination gives bot and user back. The text of an identifier has no colon at all,
which keeps the channel session of a bot apart from every user.
-/
namespace ScriptedChat

/-- A text is cut at its last separator in one way only. -/
theorem last_separator {α : Type} {c : α} {a b x y : List α} (hb : c ∉ b) (hy : c ∉ y)
    (h : a ++ c :: b = x ++ c :: y) : a = x ∧ b = y := by
  rcases List.append_eq_append_iff.1 h with ⟨z, hx, hz⟩ | ⟨z, ha, hz⟩
  · cases z with
    | nil => exact ⟨by simpa using hx.symm, (List.cons.inj hz).2⟩
    | cons d z =>
      -- Then the second separator lies in the tail behind the first one.
      have htail : b = z ++ c :: y := (List.cons.inj hz).2
      exact absurd (by simp [htail]) hb
  · cases z with
    | nil => exact ⟨by simpa using ha, (List.cons.inj hz).2.symm⟩
    | cons d z =>
      have htail : y = z ++ c :: b := (List.cons.inj hz).2
      exact absurd (by simp [htail]) hy

namespace UserId

theorem toString_injective {m n : UserId} (h : toString m = toString n) : m = n :=
  Int64.toInt_inj.1 (Int.repr_injective h)

/-- A number is written with digits and perhaps a minus. -/
theorem colon_not_mem_toString (n : UserId) : ':' ∉ (toString n).toList := by
  have hdigits : ∀ k : Nat, ':' ∉ k.repr.toList := by
    intro k h
    rw [Nat.toList_repr] at h
    exact absurd (Nat.isDigit_of_mem_toDigits (by decide) (by decide) h) (by decide)
  show ':' ∉ (Int.repr n.toInt).toList
  rw [Int.repr_eq_if]
  split
  · exact hdigits _
  · rw [String.toList_append, List.mem_append]
    rintro (h | h)
    · exact absurd h (by decide)
    · exact hdigits _ h

end UserId

namespace Uuid

theorem mem_hexDigits {count n : Nat} {c : Char} (h : c ∈ hexDigits count n) :
    ∃ d < 16, c = Nat.digitChar d := by
  induction count generalizing n with
  | zero => cases h
  | succ count ih =>
    rcases List.mem_append.1 h with h | h
    · exact ih h
    · exact ⟨n % 16, Nat.mod_lt _ (by decide), List.mem_singleton.1 h⟩

/-- An identifier is written with hexadecimal digits and hyphens. -/
theorem colon_not_mem_toText (u : Uuid) : ':' ∉ u.toText.toList := by
  have hdigit : ∀ d < 16, ':' ≠ Nat.digitChar d := by decide
  have hgroup : ∀ start length, ':' ∉ ((hexDigits 32 u.bits.toNat).drop start).take length := by
    intro start length h
    obtain ⟨d, hd, heq⟩ := mem_hexDigits (List.mem_of_mem_drop (List.mem_of_mem_take h))
    exact hdigit d hd heq
  have hfirst : ':' ∉ (hexDigits 32 u.bits.toNat).take 8 := hgroup 0 8
  simp [toText, hgroup, hfirst]

end Uuid

namespace Envelope

theorem toList_destination (m : OutboundMessage) :
    (Envelope.message m).destination.toList = m.bot.toList ++ ':' :: (toString m.user).toList := by
  simp [destination]

/-- Whatever text stands for the bot, it and the user can be told from the destination. -/
theorem destination_message_inj {m m' : OutboundMessage} :
    (Envelope.message m).destination = (Envelope.message m').destination ↔
      m.bot = m'.bot ∧ m.user = m'.user := by
  constructor
  · intro h
    have hlist := congrArg String.toList h
    rw [toList_destination, toList_destination] at hlist
    obtain ⟨hbot, huser⟩ := last_separator (UserId.colon_not_mem_toString m.user)
      (UserId.colon_not_mem_toString m'.user) hlist
    exact ⟨String.toList_injective hbot, UserId.toString_injective (String.toList_injective huser)⟩
  · intro h
    rw [destination, destination, h.1, h.2]

/-- Who an envelope is for: an end user who talks to a bot, or the channel session of a bot. -/
inductive Receiver
  | user (address : Address)
  | session (bot : Uuid)
  deriving DecidableEq

/-- The envelopes that are made for a receiver. -/
inductive MadeFor : Receiver → Envelope → Prop
  | message (bot : Uuid) (user : UserId) (text : String) (buttons : List String) :
      MadeFor (.user ⟨bot, user⟩) (.message (.make bot user text buttons))
  | start (bot : Uuid) (token : String) : MadeFor (.session bot) (.lifecycle (.start bot token))
  | stop (bot : Uuid) : MadeFor (.session bot) (.lifecycle (.stop bot))

/-- The destination that all envelopes for a receiver have. -/
def Receiver.destination : Receiver → String
  | .user a => a.bot.toText ++ ":" ++ toString a.user
  | .session bot => bot.toText

theorem MadeFor.destination_eq {r : Receiver} {e : Envelope} (h : MadeFor r e) :
    e.destination = r.destination := by
  cases h <;> rfl

/-- A session's destination has no colon, and that of a user has one. -/
theorem Receiver.session_ne_user (bot : Uuid) (a : Address) :
    (Receiver.session bot).destination ≠ (Receiver.user a).destination := by
  intro h
  have hcolon : ':' ∈ (Receiver.user a).destination.toList := by simp [Receiver.destination]
  rw [← h] at hcolon
  exact Uuid.colon_not_mem_toText bot hcolon

theorem Receiver.destination_injective {r r' : Receiver} (h : r.destination = r'.destination) :
    r = r' := by
  cases r with
  | user a =>
    cases r' with
    | user a' =>
      have hmessages : (Envelope.message (.make a.bot a.user "" [])).destination =
          (Envelope.message (.make a'.bot a'.user "" [])).destination := h
      obtain ⟨hbot, huser⟩ := destination_message_inj.1 hmessages
      rw [Receiver.user.injEq, Address.mk.injEq]
      exact ⟨Uuid.toText_injective hbot, huser⟩
    | session bot => exact absurd h.symm (Receiver.session_ne_user bot a)
  | session bot =>
    cases r' with
    | user a => exact absurd h (Receiver.session_ne_user bot a)
    | session bot' => rw [Uuid.toText_injective h]

/-- The topic of messages has messages only. -/
theorem exists_message_of_ofParts {payload : Json} {e : Envelope}
    (h : ofParts "messages" payload = .ok e) : ∃ m, e = .message m := by
  obtain ⟨htopic, _⟩ := ofParts_ok_iff.1 h
  cases e with
  | message m => exact ⟨m, rfl⟩
  | lifecycle c => exact absurd htopic (show "messages" ≠ "runners" by decide)

/-- A destination identifies the receiver. Envelopes that are made for a user or for the session of
a bot have the same destination exactly if they are for the same receiver, and messages that were
read from the bus exactly if they agree on the text of the bot and on the user. -/
theorem destination_identifies :
    (∀ r r' e e', MadeFor r e → MadeFor r' e' → (e.destination = e'.destination ↔ r = r')) ∧
    ∀ payload payload' e e', ofParts "messages" payload = .ok e →
      ofParts "messages" payload' = .ok e' → ∃ m m', e = .message m ∧ e' = .message m' ∧
        (e.destination = e'.destination ↔ m.bot = m'.bot ∧ m.user = m'.user) := by
  constructor
  · intro r r' e e' he he'
    rw [he.destination_eq, he'.destination_eq]
    exact ⟨Receiver.destination_injective, congrArg Receiver.destination⟩
  · intro payload payload' e e' he he'
    obtain ⟨m, rfl⟩ := exists_message_of_ofParts he
    obtain ⟨m', rfl⟩ := exists_message_of_ofParts he'
    exact ⟨m, m', rfl, rfl, destination_message_inj⟩

/-- A message to a user with a negative number and a stop, for one bot; and a message of a bot whose
text has a colon beside one of a bot whose text has none, as an object and as an array. -/
theorem destination_identifies_colons :
    let bot : Uuid := ⟨1⟩
    let hello : Envelope := .message (.make bot (-7) "Hi" [])
    let stop : Envelope := .lifecycle (.stop bot)
    let colon : Envelope := .message ⟨"shop:7", -7, "Hi", []⟩
    let plain : Envelope := .message ⟨"shop", 7, "Hi", ["Yes"]⟩
    let payload : Json := .object [("user_id", .integer (-7)), ("bot_uuid", .string "shop:7"),
      ("text", .string "Hi")]
    let row : Json := .array [.string "shop", .integer 7, .string "Hi", .array [.string "Yes"]]
    (MadeFor (.user ⟨bot, -7⟩) hello ∧ MadeFor (.session bot) stop ∧
      (hello.destination = stop.destination ↔ Receiver.user ⟨bot, -7⟩ = .session bot)) ∧
    ofParts "messages" payload = .ok colon ∧ ofParts "messages" row = .ok plain ∧
      ∃ m m', colon = .message m ∧ plain = .message m' ∧
        (colon.destination = plain.destination ↔ m.bot = m'.bot ∧ m.user = m'.user) := by
  intro bot hello stop colon plain payload row
  have hhello : MadeFor (.user ⟨bot, -7⟩) hello := .message bot (-7) "Hi" []
  have hstop : MadeFor (.session bot) stop := .stop bot
  have hcolon : ofParts "messages" payload = .ok colon := by decide +kernel
  have hplain : ofParts "messages" row = .ok plain := by decide +kernel
  exact ⟨⟨hhello, hstop, destination_identifies.1 _ _ _ _ hhello hstop⟩, hcolon, hplain,
    destination_identifies.2 _ _ _ _ hcolon hplain⟩

end Envelope

end ScriptedChat
