import ProbeCheck.FileFault

namespace ProbeCheck

namespace Text

theorem isPrintable_ascii {c : Char} (visible : 0x20 ≤ c.toNat ∧ c.toNat < 0x7F) :
    isPrintable c = true := by
  -- The table of unprintable characters leaves a gap for the visible part of ASCII.
  have gap : ∀ range ∈ unprintableRanges, range.2 < 0x20 ∨ 0x7F ≤ range.1 := by decide +kernel
  rw [isPrintable, Bool.not_eq_true', CodeRanges.holds, List.any_eq_false]
  intro range member inside
  rw [Bool.and_eq_true, decide_eq_true_iff, decide_eq_true_iff] at inside
  rcases gap range member with below | above
  · omega
  · omega

def Printable (text : Text) : Prop := ∀ c ∈ text, isPrintable c = true

theorem Printable.append {before after : Text} (first : before.Printable) (second : after.Printable) :
    (before ++ after).Printable := fun c member => (List.mem_append.mp member).elim (first c) (second c)

theorem Printable.cons {c : Char} {text : Text} (visible : isPrintable c = true)
    (rest : text.Printable) : Printable (c :: text) := List.forall_mem_cons.mpr ⟨visible, rest⟩

theorem printable_nil : Printable [] := List.forall_mem_nil _

theorem printable_ascii {text : Text}
    (visible : text.all (fun c => 0x20 ≤ c.toNat && c.toNat < 0x7F) = true) : text.Printable := by
  intro c member
  have shown := List.all_eq_true.mp visible c member
  rw [Bool.and_eq_true, decide_eq_true_iff, decide_eq_true_iff] at shown
  exact isPrintable_ascii shown

theorem Printable.feedless {text : Text} (printable : text.Printable) : '\n' ∉ text := by
  intro fed
  have shown := printable '\n' fed
  have hidden : isPrintable '\n' = false := by decide
  rw [hidden] at shown
  cases shown

theorem digitChar_visible : ∀ digit < 16, 0x20 ≤ (Nat.digitChar digit).toNat ∧
    (Nat.digitChar digit).toNat < 0x7F := by
  decide

theorem hex_printable (width n : Nat) : (hex width n).Printable := by
  induction width generalizing n with
  | zero => exact printable_nil
  | succ width ih =>
    have last := isPrintable_ascii (digitChar_visible (n % 16) (Nat.mod_lt n (by decide)))
    exact (ih (n / 16)).append (.cons last printable_nil)

theorem escapeCode_printable (n : Nat) : (escapeCode n).Printable := by
  have opened {letter : Char} (visible : 0x20 ≤ letter.toNat ∧ letter.toNat < 0x7F) (width : Nat) :
      Printable ('\\' :: letter :: hex width n) :=
    .cons (isPrintable_ascii (by decide)) (.cons (isPrintable_ascii visible) (hex_printable width n))
  unfold escapeCode
  split
  · exact opened (by decide) 2
  split
  · exact opened (by decide) 4
  · exact opened (by decide) 8

theorem escape_printable {mark : Char} (visible : isPrintable mark = true) (c : Char) :
    (escape isPrintable mark c).Printable := by
  have backslash : isPrintable '\\' = true := isPrintable_ascii (by decide)
  unfold escape
  split
  · rename_i special
    rcases special with rfl | rfl
    · exact .cons backslash (.cons backslash printable_nil)
    · exact .cons backslash (.cons visible printable_nil)
  split
  · exact printable_ascii (by decide)
  split
  · exact printable_ascii (by decide)
  split
  · exact printable_ascii (by decide)
  split
  · rename_i shown
    exact .cons shown printable_nil
  · exact escapeCode_printable c.toNat

theorem quoteMark_printable (text : Text) : isPrintable (quoteMark text) = true := by
  unfold quoteMark
  split
  · exact isPrintable_ascii (by decide)
  · exact isPrintable_ascii (by decide)

theorem quoted_printable (text : Text) : (quoted text).Printable := by
  have visible := quoteMark_printable text
  refine Printable.append (.cons visible fun c member => ?_) (.cons visible printable_nil)
  obtain ⟨source, -, shown⟩ := List.mem_flatMap.mp member
  exact escape_printable visible source c shown

end Text

theorem FileFault.message_printable (fault : FileFault) : fault.message.Printable := by
  cases fault with
  | nul => exact Text.printable_ascii (by decide +kernel)
  | tooDeep => exact Text.printable_ascii (by decide +kernel)
  | refused refusal path =>
    have number : (Numeral.digits refusal.number).Printable := by
      cases refusal <;> exact Text.printable_ascii (by decide +kernel)
    have wording : refusal.wording.Printable := by
      cases refusal <;> exact Text.printable_ascii (by decide +kernel)
    have opening : Text.Printable ("[Errno " : Text) := Text.printable_ascii (by decide +kernel)
    have closing : Text.Printable ("] " : Text) := Text.printable_ascii (by decide +kernel)
    have colon : Text.Printable (": " : Text) := Text.printable_ascii (by decide +kernel)
    exact ((((opening.append number).append closing).append wording).append colon).append
      (Text.quoted_printable path.text)

end ProbeCheck
