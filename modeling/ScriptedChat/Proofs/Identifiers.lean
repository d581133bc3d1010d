import ScriptedChat.Uuid

/-!
Identifiers that differ are written differently. The digits of a number below a power of 16 give
it back, and the hyphens stand at the same places in every text.
-/
namespace ScriptedChat.Uuid

@[simp]
theorem hexDigits_length (count n : Nat) : (hexDigits count n).length = count := by
  induction count generalizing n with
  | zero => rfl
  | succ count ih => simp [hexDigits, ih]

theorem digitChar_injective {a b : Nat} (ha : a < 16) (hb : b < 16)
    (h : Nat.digitChar a = Nat.digitChar b) : a = b := by
  have hall : ∀ x y : Fin 16, Nat.digitChar x = Nat.digitChar y → x = y := by
    decide
  exact congrArg Fin.val (hall ⟨a, ha⟩ ⟨b, hb⟩ h)

theorem hexDigits_injective {count a b : Nat} (ha : a < Nat.pow 16 count)
    (hb : b < Nat.pow 16 count) (h : hexDigits count a = hexDigits count b) : a = b := by
  induction count generalizing a b with
  | zero =>
    have ha : a < 1 := ha
    have hb : b < 1 := hb
    omega
  | succ count ih =>
    obtain ⟨hfirst, hlast⟩ := List.append_inj' h rfl
    have hmod : a % 16 = b % 16 :=
      digitChar_injective (Nat.mod_lt _ (by decide)) (Nat.mod_lt _ (by decide))
        (List.cons.inj hlast).1
    have ha : a < Nat.pow 16 count * 16 := ha
    have hb : b < Nat.pow 16 count * 16 := hb
    have hdiv : a / 16 = b / 16 := ih (by omega) (by omega) hfirst
    omega

/-- Texts that are put together from groups of digits have the same digits. -/
theorem groups_injective {x y : List Char} (hlength : x.length = y.length)
    (h : (x.drop 0).take 8 ++ '-' :: (x.drop 8).take 4 ++ '-' :: (x.drop 12).take 4 ++
        '-' :: (x.drop 16).take 4 ++ '-' :: (x.drop 20).take 12 =
      (y.drop 0).take 8 ++ '-' :: (y.drop 8).take 4 ++ '-' :: (y.drop 12).take 4 ++
        '-' :: (y.drop 16).take 4 ++ '-' :: (y.drop 20).take 12) :
    x.take 32 = y.take 32 := by
  obtain ⟨h, h5⟩ := List.append_inj' h (by simp [hlength])
  obtain ⟨h, h4⟩ := List.append_inj' h (by simp [hlength])
  obtain ⟨h, h3⟩ := List.append_inj' h (by simp [hlength])
  obtain ⟨h1, h2⟩ := List.append_inj' h (by simp [hlength])
  have hsplit : ∀ l : List Char, l.take 32 = (l.drop 0).take 8 ++ ((l.drop 8).take 4 ++
      ((l.drop 12).take 4 ++ ((l.drop 16).take 4 ++ (l.drop 20).take 12))) := by
    intro l
    have hcut : ∀ start a b, (l.drop start).take (a + b) =
        (l.drop start).take a ++ (l.drop (start + a)).take b := by
      intro start a b
      rw [List.take_add, List.drop_drop]
    rw [← hcut 16 4 12, ← hcut 12 4 16, ← hcut 8 4 20, ← hcut 0 8 24, List.drop_zero]
  rw [hsplit x, hsplit y, h1, (List.cons.inj h2).2, (List.cons.inj h3).2, (List.cons.inj h4).2,
    (List.cons.inj h5).2]

theorem toText_injective {u v : Uuid} (h : u.toText = v.toText) : u = v := by
  have hdigits : hexDigits 32 u.bits.toNat = hexDigits 32 v.bits.toNat := by
    have hgroups := groups_injective (by simp) (String.ofList_injective h)
    rwa [List.take_of_length_le (by simp), List.take_of_length_le (by simp)] at hgroups
  have hbits := hexDigits_injective u.bits.isLt v.bits.isLt hdigits
  cases u
  cases v
  rw [Uuid.mk.injEq]
  exact BitVec.eq_of_toNat_eq hbits

end ScriptedChat.Uuid
