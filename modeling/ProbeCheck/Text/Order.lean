import ProbeCheck.Text

namespace ProbeCheck

def Text.notAfter : Text → Text → Bool
  | [], _ => true
  | _ :: _, [] => false
  | a :: as, b :: bs => a.toNat < b.toNat || (a == b && Text.notAfter as bs)

namespace Text

theorem notAfter_total (a b : Text) : (notAfter a b || notAfter b a) = true := by
  induction a generalizing b with
  | nil => simp [notAfter]
  | cons c rest ih =>
    cases b with
    | nil => simp [notAfter]
    | cons d more =>
      by_cases same : c = d
      · subst same; simpa [notAfter] using ih more
      · have apart : c.toNat ≠ d.toNat := fun equal => same (Char.ext (UInt32.toNat_inj.mp equal))
        simp only [notAfter, Bool.or_eq_true, decide_eq_true_eq]
        rcases Nat.lt_or_gt_of_ne apart with less | more
        · exact .inl (.inl less)
        · exact .inr (.inl more)

theorem notAfter_antisymm {a b : Text} (left : notAfter a b = true) (right : notAfter b a = true) :
    a = b := by
  induction a generalizing b with
  | nil => cases b <;> simp_all [notAfter]
  | cons c rest ih =>
    cases b with
    | nil => simp [notAfter] at left
    | cons d more =>
      simp only [notAfter, Bool.or_eq_true, Bool.and_eq_true, decide_eq_true_eq, beq_iff_eq]
        at left right
      rcases left with less | ⟨rfl, left⟩
      · rcases right with greater | ⟨rfl, _⟩ <;> omega
      · rcases right with greater | ⟨_, right⟩
        · omega
        · rw [ih left right]

theorem notAfter_trans {a b c : Text} (left : notAfter a b = true) (right : notAfter b c = true) :
    notAfter a c = true := by
  induction a generalizing b c with
  | nil => simp [notAfter]
  | cons x rest ih =>
    cases b with
    | nil => simp [notAfter] at left
    | cons y middle =>
      cases c with
      | nil => simp [notAfter] at right
      | cons z more =>
        simp only [notAfter, Bool.or_eq_true, Bool.and_eq_true, decide_eq_true_eq, beq_iff_eq]
          at left right ⊢
        rcases left with less | ⟨rfl, left⟩
        · rcases right with next | ⟨rfl, _⟩
          · exact .inl (by omega)
          · exact .inl less
        · rcases right with next | ⟨rfl, right⟩
          · exact .inl next
          · exact .inr ⟨rfl, ih left right⟩

end Text

def sortTexts (texts : List Text) : List Text := texts.mergeSort Text.notAfter

def withoutEach : List Text → List Text → List Text
  | texts, [] => texts
  | texts, gone :: rest => withoutEach (texts.erase gone) rest

theorem sortTexts_perm (texts : List Text) : (sortTexts texts).Perm texts :=
  List.mergeSort_perm texts _

theorem sortTexts_pairwise (texts : List Text) :
    (sortTexts texts).Pairwise fun a b => Text.notAfter a b = true :=
  @List.pairwise_mergeSort _ Text.notAfter (fun _ _ _ => Text.notAfter_trans)
    Text.notAfter_total texts

theorem count_withoutEach (texts gone : List Text) (text : Text) :
    (withoutEach texts gone).count text = texts.count text - gone.count text := by
  induction gone generalizing texts with
  | nil => rfl
  | cons first rest ih =>
    simp only [withoutEach, ih, List.count_erase, List.count_cons, beq_iff_eq]
    split <;> omega

end ProbeCheck
