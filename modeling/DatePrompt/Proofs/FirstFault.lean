import DatePrompt.Proofs.TemplateReading

/-!
# The first fault of a template

A template is refused at the first place where it can no longer be saved. What was read before it
becomes a template when its brackets are closed; what comes behind the character there and the next
is not looked at. `FirstFault` says this of a reader at any place of the template. A reader that
reads one more field, bracket or character keeps it (`FirstFault.step`), so both readers have it
from the place of the fault back to the beginning.
-/

namespace DatePrompt

namespace Template

/-! ## Open brackets -/

/-- The positions of the brackets that are open behind a text which begins at a position, the
innermost first, those of `opened` being open before it. -/
def openBehind (opened : List Nat) (pos : Nat) : List Char → List Nat
  | [] => opened
  | '[' :: t => openBehind (pos :: opened) (pos + 1) t
  | ']' :: t => openBehind opened.tail (pos + 1) t
  | _ :: t => openBehind opened (pos + 1) t

/-- The positions of the brackets that a text leaves open, the innermost first. -/
def openBrackets (t : List Char) : List Nat := openBehind [] 0 t

theorem openBehind_of_ne {opened : List Nat} {pos : Nat} {c : Char} (t : List Char)
    (hopen : c ≠ '[') (hclose : c ≠ ']') :
    openBehind opened pos (c :: t) = openBehind opened (pos + 1) t := by
  rw [openBehind]
  · exact hopen
  · exact hclose

theorem openBehind_field (opened : List Nat) (pos : Nat) (f : Field) (t : List Char) :
    openBehind opened pos ('%' :: f.marker :: t) = openBehind opened (pos + 2) t := by
  cases f <;> rfl

/-- A bracket that is open was open before or stands in the text. -/
theorem of_mem_openBehind {opened : List Nat} {pos q : Nat} {t : List Char}
    (h : q ∈ openBehind opened pos t) : q ∈ opened ∨ ∃ i, q = pos + i ∧ t[i]? = some '[' := by
  fun_induction openBehind opened pos t with
  | case1 => exact .inl h
  | case2 opened pos t ih =>
    rcases ih h with hq | ⟨i, rfl, hi⟩
    · rcases List.mem_cons.mp hq with rfl | hq
      · exact .inr ⟨0, rfl, rfl⟩
      · exact .inl hq
    · exact .inr ⟨i + 1, by omega, hi⟩
  | case3 opened pos t ih =>
    rcases ih h with hq | ⟨i, rfl, hi⟩
    · exact .inl (List.mem_of_mem_tail hq)
    · exact .inr ⟨i + 1, by omega, hi⟩
  | case4 opened pos c t hopen hclose ih =>
    rcases ih h with hq | ⟨i, rfl, hi⟩
    · exact .inl hq
    · exact .inr ⟨i + 1, by omega, hi⟩

/-- A text with as many closing brackets behind it as it leaves brackets open. -/
def closing (opened : List Nat) (pos : Nat) (t : List Char) : List Char :=
  t ++ List.replicate (openBehind opened pos t).length ']'

theorem closing_nil (opened : List Nat) (pos : Nat) :
    closing opened pos [] = List.replicate opened.length ']' := rfl

/-! ## What a fault says of a reader -/

/-- What a fault at a position says of a reader that stands at another with some brackets open. -/
structure FirstFault {α : Type} (read : List Char → Except (Nat × TemplateFault) α)
    (opened : List Nat) (pos : Nat) (t : List Char) (p : Nat) (fault : TemplateFault) : Prop where
  /-- The fault is not behind the reader, unless it is a bracket that is open. -/
  place : pos ≤ p ∨ fault = .unclosedOpen ∧ p ∈ opened
  /-- What is read before the fault can be read to an end. -/
  viable : pos ≤ p → ∃ a, read (closing opened pos (t.take (p - pos))) = .ok a
  /-- What comes behind the fault does not mend it. -/
  lasting : fault ≠ .unclosedOpen → fault ≠ .dangling →
    ∀ t', t.take (p - pos + 2) <+: t' → read t' = .error (p, fault)
  /-- A bracket that is left open is all that is wrong. -/
  unclosed : fault = .unclosedOpen → (openBehind opened pos t).head? = some p ∧
    ∃ a, read (closing opened pos t) = .ok a

namespace FirstFault

variable {α β : Type} {read : List Char → Except (Nat × TemplateFault) α} {opened : List Nat}
  {pos p : Nat} {t : List Char} {fault : TemplateFault}

/-- A fault that is found where the reader stands. -/
theorem here (hend : ∃ a, read (List.replicate opened.length ']') = .ok a)
    (hfault : fault ≠ .unclosedOpen)
    (hlasting : fault ≠ .dangling → ∀ t', t.take 2 <+: t' → read t' = .error (pos, fault)) :
    FirstFault read opened pos t pos fault where
  place := .inl (Nat.le_refl pos)
  viable := by
    intro _
    rw [Nat.sub_self, List.take_zero, closing_nil]
    exact hend
  lasting := by
    intro _ hdangling
    rw [Nat.sub_self]
    exact hlasting hdangling
  unclosed := fun h => absurd h hfault

/-- A bracket that is open at the end. -/
theorem atEnd (hend : ∃ a, read (List.replicate (p :: opened).length ']') = .ok a) :
    FirstFault read (p :: opened) pos [] p .unclosedOpen where
  place := .inr ⟨rfl, List.mem_cons_self⟩
  viable := by
    intro _
    rw [List.take_nil, closing_nil]
    exact hend
  lasting := fun h => absurd rfl h
  unclosed := fun _ => ⟨rfl, hend⟩

/-- The step from one reader to the next: what is read between them does not hide the fault. -/
theorem step {read' : List Char → Except (Nat × TemplateFault) β} {opened' : List Nat}
    {u : List Char} {g : β → α} (hend : ∃ a, read (List.replicate opened.length ']') = .ok a)
    (hread : ∀ x, read (u ++ x) = (read' x).map g)
    (hopen : ∀ x, openBehind opened pos (u ++ x) = openBehind opened' (pos + u.length) x)
    (hbefore : ∀ q ∈ opened, q < pos) (hnew : ∀ q ∈ opened', q ∈ opened ∨ q = pos)
    (h : FirstFault read' opened' (pos + u.length) t p fault) :
    FirstFault read opened pos (u ++ t) p fault := by
  have hclosing : ∀ x, closing opened pos (u ++ x) = u ++ closing opened' (pos + u.length) x := by
    intro x
    rw [closing, hopen, List.append_assoc, closing]
  have htake : ∀ n, pos + u.length ≤ p →
      (u ++ t).take (p - pos + n) = u ++ t.take (p - (pos + u.length) + n) := by
    intro n hp
    rw [show p - pos + n = u.length + (p - (pos + u.length) + n) by omega,
      List.take_length_add_append]
  refine ⟨?_, fun hp => ?_, fun hfault hdangling t' ht' => ?_, fun hfault => ?_⟩
  · rcases h.place with hp | ⟨hfault, hp⟩
    · exact .inl (by omega)
    · rcases hnew p hp with hp | rfl
      · exact .inr ⟨hfault, hp⟩
      · exact .inl (Nat.le_refl p)
  · rcases h.place with hp' | ⟨-, hp'⟩
    · obtain ⟨b, hb⟩ := h.viable hp'
      have htake := htake 0 hp'
      rw [Nat.add_zero, Nat.add_zero] at htake
      rw [htake, hclosing, hread, hb]
      exact ⟨g b, rfl⟩
    · -- the fault is the bracket that was just read
      rcases hnew p hp' with hp' | rfl
      · exact absurd hp (Nat.not_le.mpr (hbefore p hp'))
      · rw [Nat.sub_self, List.take_zero, closing_nil]
        exact hend
  · have hp : pos + u.length ≤ p := h.place.resolve_right fun hplace => hfault hplace.1
    rw [htake 2 hp] at ht'
    obtain ⟨more, rfl⟩ := ht'
    rw [List.append_assoc, hread, h.lasting hfault hdangling _ (List.prefix_append _ more)]
    rfl
  · obtain ⟨hhead, b, hb⟩ := h.unclosed hfault
    rw [hclosing, hread, hb, hopen]
    exact ⟨hhead, g b, rfl⟩

end FirstFault

/-! ## The readers -/

/-- A text that agrees with another in its first two characters, as far as there are. -/
theorem exists_of_take_prefix {c : Char} {t t' : List Char} (h : (c :: t).take 2 <+: t') :
    ∃ rest, t' = c :: rest ∧ (t ≠ [] → rest ≠ []) := by
  obtain ⟨more, rfl⟩ := h
  refine ⟨t.take 1 ++ more, rfl, fun ht => ?_⟩
  cases t with
  | nil => exact absurd rfl ht
  | cons d t => exact List.cons_ne_nil d _

theorem readClosed_afterGroup {opened : List Nat} {pos : Nat} {c : Char} {rest : List Char}
    (hclose : c ≠ ']') (hdangling : c = '%' → rest ≠ []) :
    readClosed opened pos (c :: rest) = .error (pos, .afterGroup) := by
  rw [readClosed]
  · exact hclose
  · exact hdangling

theorem firstFault_readClosed {opened : List Nat} {pos p : Nat} {t : List Char}
    {fault : TemplateFault} (hbefore : ∀ q ∈ opened, q < pos)
    (h : readClosed opened pos t = .error (p, fault)) :
    FirstFault (readClosed opened pos) opened pos t p fault := by
  have hend : ∀ opened pos, ∃ a, readClosed opened pos (List.replicate opened.length ']') = .ok a :=
    fun opened pos => ⟨(), readClosed_eq_ok_iff.mpr rfl⟩
  fun_induction readClosed opened pos t with
  | case1 => cases h
  | case2 pos q opened => -- the end
    cases h
    exact .atEnd (hend _ _)
  | case3 pos rest => -- a closing bracket too many
    cases h
    refine .here (hend _ _) (by decide) fun _ t' ht' => ?_
    obtain ⟨rest', rfl, -⟩ := exists_of_take_prefix ht'
    rfl
  | case4 pos rest q opened ih => -- a closing bracket
    have hrest := ih (fun r hr => Nat.lt_succ_of_lt (hbefore r (List.mem_cons_of_mem q hr))) h
    refine FirstFault.step (u := [']']) (g := id) (hend _ _) (fun x => ?_) (fun _ => rfl) hbefore
      (fun r hr => .inl (List.mem_cons_of_mem q hr)) hrest
    rw [Except.map_id, List.singleton_append, readClosed]
    rfl
  | case5 opened pos => -- a percent sign at the end
    cases h
    exact .here (hend _ _) (by decide) fun hdangling => absurd rfl hdangling
  | case6 opened pos c rest hclose hdangling => -- anything else
    cases h
    refine .here (hend _ _) (by decide) fun _ t' ht' => ?_
    obtain ⟨rest', rfl, hrest'⟩ := exists_of_take_prefix ht'
    exact readClosed_afterGroup hclose fun hc => hrest' (hdangling hc)

theorem exists_readOpen_replicate (opened : List Nat) (seen : Shape) (pos : Nat) :
    ∃ a, readOpen opened seen pos (List.replicate opened.length ']') = .ok a := by
  rw [← sourceFrom_nil]
  exact ⟨_, readOpen_sourceFrom (.nil seen) pos⟩

theorem readOpen_unknownField {opened : List Nat} {seen : Shape} {pos : Nat} {c : Char}
    (hmarker : Field.ofMarker? c = none) (t : List Char) :
    readOpen opened seen pos ('%' :: c :: t) = .error (pos, .unknownField c) := by
  rw [readOpen, hmarker]

theorem readOpen_duplicateField {opened : List Nat} {seen : Shape} {pos : Nat} {c : Char}
    {f : Field} (hmarker : Field.ofMarker? c = some f) (hseen : seen.has f.component = true)
    (t : List Char) :
    readOpen opened seen pos ('%' :: c :: t) = .error (pos, .duplicateField f.component) := by
  rw [readOpen, hmarker]
  exact if_pos hseen

theorem firstFault_readOpen {opened : List Nat} {seen : Shape} {pos p : Nat} {t : List Char}
    {fault : TemplateFault} (hbefore : ∀ q ∈ opened, q < pos)
    (h : readOpen opened seen pos t = .error (p, fault)) :
    FirstFault (readOpen opened seen pos) opened pos t p fault := by
  have hend := exists_readOpen_replicate
  fun_induction readOpen opened seen pos t with
  | case1 => cases h
  | case2 seen pos q opened => -- the end
    cases h
    exact .atEnd (hend _ _ _)
  | case3 opened seen pos => -- a percent sign at the end
    cases h
    exact .here (hend _ _ _) (by decide) fun hdangling => absurd rfl hdangling
  | case4 opened seen pos c rest hmarker => -- no field
    cases h
    refine .here (hend _ _ _) (by simp) fun _ t' ht' => ?_
    obtain ⟨more, rfl⟩ := ht'
    exact readOpen_unknownField hmarker more
  | case5 opened seen pos c rest f hmarker hseen => -- a component that was asked for
    cases h
    refine .here (hend _ _ _) (by simp) fun _ t' ht' => ?_
    obtain ⟨more, rfl⟩ := ht'
    exact readOpen_duplicateField hmarker hseen more
  | case6 opened seen pos c rest f hmarker hseen ih => -- a field
    rw [← Field.marker_of_ofMarker? hmarker]
    have hrest := ih (fun q hq => Nat.lt_add_right 2 (hbefore q hq)) (map_eq_error_iff.mp h)
    exact FirstFault.step (u := ['%', f.marker]) (hend _ _ _)
      (fun _ => readOpen_field (Bool.eq_false_iff.mpr hseen)) (openBehind_field opened pos f)
      hbefore (fun _ => .inl) hrest
  | case7 opened seen pos rest ih => -- an opening bracket
    have hbefore' : ∀ q ∈ pos :: opened, q < pos + 1 :=
      List.forall_mem_cons.mpr ⟨Nat.lt_succ_self pos, fun q hq => Nat.lt_succ_of_lt (hbefore q hq)⟩
    have hrest := ih hbefore' (map_eq_error_iff.mp h)
    exact FirstFault.step (u := ['[']) (hend _ _ _)
      (fun x => by rw [List.singleton_append, readOpen]) (fun _ => rfl) hbefore (fun q hq => (List.mem_cons.mp hq).symm) hrest
  | case8 seen pos rest => -- a closing bracket too many
    cases h
    refine .here (hend _ _ _) (by decide) fun _ t' ht' => ?_
    obtain ⟨rest', rfl, -⟩ := exists_of_take_prefix ht'
    rfl
  | case9 seen pos rest q opened => -- the first closing bracket
    have hbefore' : ∀ r ∈ opened, r < pos + 1 :=
      fun r hr => Nat.lt_succ_of_lt (hbefore r (List.mem_cons_of_mem q hr))
    have hrest := firstFault_readClosed hbefore' (map_eq_error_iff.mp h)
    exact FirstFault.step (u := [']']) (hend _ _ _)
      (fun x => by rw [List.singleton_append, readOpen]) (fun _ => rfl) hbefore (fun r hr => .inl (List.mem_cons_of_mem q hr)) hrest
  | case10 opened seen pos c rest hdangling hpercent hopen hclose ih => -- a literal character
    have hspecial : ¬ IsSpecial c := by
      rintro (rfl | rfl | rfl)
      · cases rest with
        | nil => exact hdangling rfl rfl
        | cons d rest => exact hpercent d rest rfl rfl
      · exact hopen rfl
      · exact hclose rfl
    have hrest := ih (fun q hq => Nat.lt_succ_of_lt (hbefore q hq)) (map_eq_error_iff.mp h)
    exact FirstFault.step (u := [c]) (hend _ _ _) (fun _ => readOpen_char hspecial)
      (fun x => openBehind_of_ne x hopen hclose) hbefore (fun _ => .inl) hrest

end Template

theorem Format.ofTemplate_eq_error_iff {template : String} {e : TemplateError} :
    ofTemplate template = .error e ↔ e.template = template ∧
      Template.readOpen [] .empty 0 template.toList = .error (e.position, e.fault) := by
  obtain ⟨template', position, fault⟩ := e
  rw [ofTemplate]
  split
  · rename_i head groups hok
    simp [hok]
  · rename_i position' fault' herror
    simp [herror, eq_comm]

theorem Format.exists_ofTemplate_iff {t : List Char} :
    (∃ f, ofTemplate (String.ofList t) = .ok f) ↔
      ∃ a, Template.readOpen [] .empty 0 t = .ok a := by
  rw [ofTemplate, String.toList_ofList]
  cases Template.readOpen [] .empty 0 t <;> simp

/-- A template is refused at the first place where it goes wrong. What stands before it is a
template once its brackets are closed. Unless the fault is an open bracket or a percent sign at the
end, every template that goes on from it is refused there for the same fault. If it is an open
bracket, it is the innermost one at the end, and closing brackets are all that is missing. -/
theorem first_fault_reported {template : String} {e : TemplateError}
    (h : Format.ofTemplate template = .error e) :
    (∃ f, Format.ofTemplate (String.ofList (template.toList.take e.position ++
      List.replicate (Template.openBrackets (template.toList.take e.position)).length ']')) = .ok f) ∧
    (e.fault ≠ .unclosedOpen → e.fault ≠ .dangling → ∀ template' : String,
      template.toList.take (e.position + 2) <+: template'.toList →
        Format.ofTemplate template' = .error ⟨template', e.position, e.fault⟩) ∧
    (e.fault = .unclosedOpen →
      (Template.openBrackets template.toList).head? = some e.position ∧
      template.toList[e.position]? = some '[' ∧
      ∃ f, Format.ofTemplate (String.ofList (template.toList ++
        List.replicate (Template.openBrackets template.toList).length ']')) = .ok f) := by
  have hread := (Format.ofTemplate_eq_error_iff.mp h).2
  have hfault := Template.firstFault_readOpen (List.forall_mem_nil _) hread
  refine ⟨?_, fun hunclosed hdangling template' htemplate => ?_, fun hunclosed => ?_⟩
  · exact Format.exists_ofTemplate_iff.mpr (hfault.viable (Nat.zero_le _))
  · exact Format.ofTemplate_eq_error_iff.mpr
      ⟨rfl, hfault.lasting hunclosed hdangling _ htemplate⟩
  · obtain ⟨hhead, hclosed⟩ := hfault.unclosed hunclosed
    refine ⟨hhead, ?_, Format.exists_ofTemplate_iff.mpr hclosed⟩
    rcases Template.of_mem_openBehind (List.mem_of_head? hhead) with hnil | ⟨i, hi, hbracket⟩
    · cases hnil
    · rwa [hi, Nat.zero_add]

/-- A letter that stands for no field in a group, and two groups that are not closed. -/
theorem first_fault_reported_nested :
    Format.ofTemplate "%d[.%q]" = .error ⟨"%d[.%q]", 4, .unknownField 'q'⟩ ∧
    (∃ f, Format.ofTemplate "%d[.]" = .ok f) ∧
    Format.ofTemplate "%d[.%q[%m" = .error ⟨"%d[.%q[%m", 4, .unknownField 'q'⟩ ∧
    Format.ofTemplate "%d[.[%m" = .error ⟨"%d[.[%m", 4, .unclosedOpen⟩ ∧
    (∃ f, Format.ofTemplate "%d[.]" = .ok f) ∧ ∃ f, Format.ofTemplate "%d[.[%m]]" = .ok f := by
  have hunknown : Format.ofTemplate "%d[.%q]" = .error ⟨"%d[.%q]", 4, .unknownField 'q'⟩ := rfl
  have hunclosed : Format.ofTemplate "%d[.[%m" = .error ⟨"%d[.[%m", 4, .unclosedOpen⟩ := rfl
  obtain ⟨hbefore, hlasting, -⟩ := first_fault_reported hunknown
  obtain ⟨hbefore', -, hclosed⟩ := first_fault_reported hunclosed
  refine ⟨hunknown, hbefore, ?_, hunclosed, hbefore', (hclosed rfl).2.2⟩
  exact hlasting (by decide) (by decide) "%d[.%q[%m" (by decide)

end DatePrompt
