import DatePrompt.Proofs.Outcome
import DatePrompt.Template.Reading

/-!
# Templates and formats

A template is read in one pass that knows, at each place, which brackets are open and which
components were asked for. What is left of the template there is the written form of what is left
of the chain (`Template.sourceFrom`), and that part of the chain is well formed after what was read
(`Template.Follows`): `Template.readOpen_eq_ok_iff` says that reading succeeds exactly then. At the
beginning of the template this is the format itself, so that reading and writing are inverse to
each other on well-formed formats.
-/

namespace DatePrompt

namespace Template

/-- The components that the rest of a segment and the groups after it ask for. -/
def componentsFrom (s : Segment) (groups : List Segment) : List Component :=
  (s :: groups).flatMap Segment.components

/-- The written form of the rest of a segment and the groups after it, when `opened` more brackets
are to be closed. -/
def sourceFrom (opened : Nat) (s : Segment) (groups : List Segment) : List Char :=
  s.source ++ groups.flatMap (fun g => '[' :: g.source) ++
    List.replicate (groups.length + opened) ']'

/-- Whether the rest of a segment and the groups after it may follow the components of `seen`. -/
structure Follows (seen : Shape) (s : Segment) (groups : List Segment) : Prop where
  wellFormed : ∀ g ∈ s :: groups, g.WellFormed
  unseen : ∀ c ∈ componentsFrom s groups, seen.has c = false
  nodup : (componentsFrom s groups).Nodup

theorem sourceFrom_nil (opened : Nat) : sourceFrom opened [] [] = List.replicate opened ']' := by
  simp [sourceFrom, Segment.source]

theorem sourceFrom_field (opened : Nat) (f : Field) (s : Segment) (groups : List Segment) :
    sourceFrom opened (.field f :: s) groups = '%' :: f.marker :: sourceFrom opened s groups := by
  simp [sourceFrom, Segment.source, Atom.source]

theorem sourceFrom_literal (opened : Nat) (t : List Char) (s : Segment) (groups : List Segment) :
    sourceFrom opened (.literal t :: s) groups = t ++ sourceFrom opened s groups := by
  simp [sourceFrom, Segment.source, Atom.source]

theorem sourceFrom_consChar (opened : Nat) (c : Char) (s : Segment) (groups : List Segment) :
    sourceFrom opened (s.consChar c) groups = c :: sourceFrom opened s groups := by
  simp [sourceFrom, Segment.source_consChar]

theorem sourceFrom_group (opened : Nat) (s : Segment) (groups : List Segment) :
    sourceFrom opened [] (s :: groups) = '[' :: sourceFrom (opened + 1) s groups := by
  simp [sourceFrom, Segment.source, Nat.add_assoc, Nat.add_comm 1]

/-! ## What may follow -/

theorem componentsFrom_field (f : Field) (s : Segment) (groups : List Segment) :
    componentsFrom (.field f :: s) groups = f.component :: componentsFrom s groups := rfl

theorem componentsFrom_consChar (c : Char) (s : Segment) (groups : List Segment) :
    componentsFrom (s.consChar c) groups = componentsFrom s groups := by
  simp [componentsFrom, Segment.components, Segment.fields_consChar]

end Template

/-- A literal character keeps a segment well formed: it joins the literal that it touches. -/
theorem Segment.WellFormed.consChar {s : Segment} (h : s.WellFormed) {c : Char}
    (hc : ¬ IsSpecial c) : (s.consChar c).WellFormed := by
  cases s with
  | nil => exact ⟨⟨by simp, by simpa using hc⟩, by simp, trivial⟩
  | cons a s =>
    cases a with
    | field f => exact ⟨⟨by simp, by simpa using hc⟩, by simp, h⟩
    | literal t =>
      obtain ⟨ht, hnext, hs⟩ := h
      exact ⟨⟨by simp, List.forall_mem_cons.mpr ⟨hc, ht.2⟩⟩, hnext, hs⟩

namespace Template.Follows

variable {seen : Shape} {s : Segment} {groups : List Segment}

theorem nil (seen : Shape) : Follows seen [] [] :=
  ⟨by simp [Segment.WellFormed], by simp [componentsFrom, Segment.components, Segment.fields],
    by simp [componentsFrom, Segment.components, Segment.fields]⟩

theorem group_iff : Follows seen [] (s :: groups) ↔ Follows seen s groups := by
  constructor
  · rintro ⟨hwf, hunseen, hnodup⟩
    exact ⟨(List.forall_mem_cons.mp hwf).2, hunseen, hnodup⟩
  · rintro ⟨hwf, hunseen, hnodup⟩
    exact ⟨List.forall_mem_cons.mpr ⟨trivial, hwf⟩, hunseen, hnodup⟩

theorem field_iff {f : Field} : Follows seen (.field f :: s) groups ↔
    seen.has f.component = false ∧ Follows (seen.add f.component) s groups := by
  constructor
  · rintro ⟨hwf, hunseen, hnodup⟩
    rw [componentsFrom_field] at hunseen hnodup
    obtain ⟨hf, hrest⟩ := List.forall_mem_cons.mp hunseen
    obtain ⟨hnew, hnodup⟩ := List.nodup_cons.mp hnodup
    obtain ⟨hs, hgroups⟩ := List.forall_mem_cons.mp hwf
    refine ⟨hf, List.forall_mem_cons.mpr ⟨hs, hgroups⟩, fun c hc => ?_, hnodup⟩
    have hne : f.component ≠ c := fun h => hnew (h ▸ hc)
    rw [Shape.has_add, hrest c hc, Bool.or_false, decide_eq_false hne]
  · rintro ⟨hf, hwf, hunseen, hnodup⟩
    simp only [Shape.has_add, Bool.or_eq_false_iff, decide_eq_false_iff_not] at hunseen
    obtain ⟨hs, hgroups⟩ := List.forall_mem_cons.mp hwf
    refine ⟨List.forall_mem_cons.mpr ⟨hs, hgroups⟩, ?_, ?_⟩
    · exact List.forall_mem_cons.mpr ⟨hf, fun c hc => (hunseen c hc).2⟩
    · exact List.nodup_cons.mpr ⟨fun h => (hunseen _ h).1 rfl, hnodup⟩

theorem consChar (h : Follows seen s groups) {c : Char} (hc : ¬ IsSpecial c) :
    Follows seen (s.consChar c) groups := by
  obtain ⟨hwf, hunseen, hnodup⟩ := h
  obtain ⟨hs, hgroups⟩ := List.forall_mem_cons.mp hwf
  refine ⟨List.forall_mem_cons.mpr ⟨hs.consChar hc, hgroups⟩, ?_, ?_⟩
  · rwa [componentsFrom_consChar]
  · rwa [componentsFrom_consChar]

theorem of_literal {t : List Char} (h : Follows seen (.literal t :: s) groups) :
    ((t ≠ [] ∧ ∀ c ∈ t, ¬ IsSpecial c) ∧ ∀ u s', s ≠ .literal u :: s') ∧
      Follows seen s groups := by
  obtain ⟨hwf, hunseen, hnodup⟩ := h
  obtain ⟨⟨ht, hnext, hs⟩, hgroups⟩ := List.forall_mem_cons.mp hwf
  exact ⟨⟨ht, hnext⟩, List.forall_mem_cons.mpr ⟨hs, hgroups⟩, hunseen, hnodup⟩

end Template.Follows

namespace Template

/-! ## Reading what was written -/

theorem readClosed_eq_ok_iff {opened : List Nat} {pos : Nat} {t : List Char} :
    readClosed opened pos t = .ok () ↔ t = List.replicate opened.length ']' := by
  fun_induction readClosed opened pos t with
  | case1 => simp
  | case2 => simp [List.replicate_succ]
  | case3 => simp
  | case4 pos rest p tail ih => simp [ih, List.replicate_succ]
  | case5 opened pos => simp [List.eq_replicate_iff]
  | case6 opened pos c rest hclose =>
    rw [List.eq_replicate_iff]
    constructor
    · intro h; cases h
    · rintro ⟨_, h⟩
      exact absurd (h c List.mem_cons_self) hclose

theorem readOpen_field {opened : List Nat} {seen : Shape} {pos : Nat} {f : Field} {t : List Char}
    (h : seen.has f.component = false) : readOpen opened seen pos ('%' :: f.marker :: t) =
      (readOpen opened (seen.add f.component) (pos + 2) t).map
        fun (s, groups) => (.field f :: s, groups) := by
  rw [readOpen, Field.ofMarker?_marker]
  simp only [h, Bool.false_eq_true, if_false]

theorem readOpen_char {opened : List Nat} {seen : Shape} {pos : Nat} {c : Char} {t : List Char}
    (hc : ¬ IsSpecial c) : readOpen opened seen pos (c :: t) =
      (readOpen opened seen (pos + 1) t).map fun (s, groups) => (s.consChar c, groups) := by
  simp only [IsSpecial, not_or] at hc
  obtain ⟨hpercent, hopen, hclose⟩ := hc
  rw [readOpen]
  · exact fun h => absurd h hpercent
  · exact fun _ _ h => absurd h hpercent
  · exact hopen
  · exact hclose

/-- A literal is read as a whole before what does not begin with another. -/
theorem readOpen_literal {opened : List Nat} {seen : Shape} {s : Segment} {groups : List Segment}
    {rest t : List Char} (hrest : ∀ pos, readOpen opened seen pos rest = .ok (s, groups))
    (hs : ∀ u s', s ≠ .literal u :: s') (ht : t ≠ []) (hchars : ∀ c ∈ t, ¬ IsSpecial c)
    (pos : Nat) :
    readOpen opened seen pos (t ++ rest) = .ok (.literal t :: s, groups) := by
  induction t generalizing pos with
  | nil => exact absurd rfl ht
  | cons c t ih =>
    obtain ⟨hc, hchars⟩ := List.forall_mem_cons.mp hchars
    rw [List.cons_append, readOpen_char hc]
    cases t with
    | nil =>
      rw [List.nil_append, hrest]
      cases s with
      | nil => rfl
      | cons a s =>
        cases a with
        | literal u => exact absurd rfl (hs u s)
        | field f => rfl
    | cons d t =>
      rw [ih (by simp) hchars]
      rfl

/-- A segment is read if its end is. -/
theorem readOpen_segment {opened : List Nat} {groups : List Segment}
    (hend : ∀ seen pos, Follows seen [] groups →
      readOpen opened seen pos (sourceFrom opened.length [] groups) = .ok ([], groups))
    {seen : Shape} {s : Segment} (h : Follows seen s groups) (pos : Nat) :
    readOpen opened seen pos (sourceFrom opened.length s groups) = .ok (s, groups) := by
  induction s generalizing seen pos with
  | nil => exact hend seen pos h
  | cons a s ih =>
    cases a with
    | field f =>
      obtain ⟨hf, hs⟩ := Follows.field_iff.mp h
      rw [sourceFrom_field, readOpen_field hf, ih hs]
      rfl
    | literal t =>
      obtain ⟨⟨⟨ht, hchars⟩, hnext⟩, hs⟩ := h.of_literal
      rw [sourceFrom_literal]
      exact readOpen_literal (ih hs) hnext ht hchars pos

/-- What is written is read back. -/
theorem readOpen_sourceFrom {opened : List Nat} {seen : Shape} {s : Segment}
    {groups : List Segment} (h : Follows seen s groups) (pos : Nat) :
    readOpen opened seen pos (sourceFrom opened.length s groups) = .ok (s, groups) := by
  induction groups generalizing opened seen s pos with
  | nil =>
    refine readOpen_segment (fun seen pos _ => ?_) h pos
    rw [sourceFrom_nil]
    cases opened with
    | nil => rfl
    | cons p opened =>
      rw [List.length_cons, List.replicate_succ, readOpen, readClosed_eq_ok_iff.mpr rfl]
      rfl
  | cons g groups ih =>
    refine readOpen_segment (fun seen pos hg => ?_) h pos
    rw [sourceFrom_group, readOpen]
    rw [show opened.length + 1 = (pos :: opened).length from rfl, ih (Follows.group_iff.mp hg)]
    rfl

/-- What is read is written back, and may follow what was read before. -/
theorem sourceFrom_of_readOpen {opened : List Nat} {seen : Shape} {pos : Nat} {t : List Char}
    {s : Segment} {groups : List Segment} (h : readOpen opened seen pos t = .ok (s, groups)) :
    t = sourceFrom opened.length s groups ∧ Follows seen s groups := by
  fun_induction readOpen opened seen pos t generalizing s groups with
  | case1 seen pos => -- the end
    cases h
    exact ⟨(sourceFrom_nil 0).symm, .nil seen⟩
  | case2 | case3 | case4 | case5 | case8 => cases h
  | case6 opened seen pos c rest f hmarker hseen ih => -- a field
    obtain ⟨⟨s', groups'⟩, hread, heq⟩ := map_eq_ok_iff.mp h
    cases heq
    obtain ⟨rfl, hfollows⟩ := ih hread
    rw [sourceFrom_field, Field.marker_of_ofMarker? hmarker]
    exact ⟨rfl, Follows.field_iff.mpr ⟨Bool.eq_false_iff.mpr hseen, hfollows⟩⟩
  | case7 opened seen pos rest ih => -- an opening bracket
    obtain ⟨⟨s', groups'⟩, hread, heq⟩ := map_eq_ok_iff.mp h
    cases heq
    obtain ⟨rfl, hfollows⟩ := ih hread
    rw [sourceFrom_group]
    exact ⟨rfl, Follows.group_iff.mpr hfollows⟩
  | case9 seen pos rest p opened => -- a closing bracket
    obtain ⟨_, hread, heq⟩ := map_eq_ok_iff.mp h
    cases heq
    rw [readClosed_eq_ok_iff.mp hread, sourceFrom_nil]
    exact ⟨rfl, .nil seen⟩
  | case10 opened seen pos c rest hdangling hpercent hopen hclose ih => -- a literal character
    obtain ⟨⟨s', groups'⟩, hread, heq⟩ := map_eq_ok_iff.mp h
    cases heq
    obtain ⟨rfl, hfollows⟩ := ih hread
    rw [sourceFrom_consChar]
    refine ⟨rfl, hfollows.consChar ?_⟩
    rintro (rfl | rfl | rfl)
    · cases hrest : sourceFrom opened.length s' groups with
      | nil => exact hdangling rfl hrest
      | cons d rest => exact hpercent d rest rfl hrest
    · exact hopen rfl
    · exact hclose rfl

theorem readOpen_eq_ok_iff {opened : List Nat} {seen : Shape} {pos : Nat} {t : List Char}
    {s : Segment} {groups : List Segment} :
    readOpen opened seen pos t = .ok (s, groups) ↔
      t = sourceFrom opened.length s groups ∧ Follows seen s groups := by
  constructor
  · exact sourceFrom_of_readOpen
  · rintro ⟨rfl, h⟩
    exact readOpen_sourceFrom h pos

end Template

theorem Segment.WellFormed.literal_nil_notMem {s : Segment} (h : s.WellFormed) :
    .literal [] ∉ s := by
  induction s with
  | nil => exact List.not_mem_nil
  | cons a s ih =>
    cases a with
    | field f =>
      intro hmem
      rcases List.mem_cons.mp hmem with hf | hmem
      · cases hf
      · exact ih h hmem
    | literal t =>
      obtain ⟨ht, _, hs⟩ := h
      intro hmem
      rcases List.mem_cons.mp hmem with hlit | hmem
      · cases hlit
        exact ht.1 rfl
      · exact ih hs hmem

/-! ## The whole template -/

namespace Format

theorem WellFormed.literal_nil_notMem {f : Format} (h : f.WellFormed) :
    .literal [] ∉ f.segments.flatten := by
  intro hmem
  obtain ⟨s, hs, hmem⟩ := List.mem_flatten.mp hmem
  exact (h.1 s hs).literal_nil_notMem hmem

theorem wellFormed_iff {f : Format} :
    f.WellFormed ↔ Template.Follows .empty f.head f.groups := by
  have hcomponents : Template.componentsFrom f.head f.groups = f.fields.map Field.component := by
    rw [Template.componentsFrom, fields, List.map_flatMap]
    rfl
  constructor
  · rintro ⟨hwf, hnodup⟩
    exact ⟨hwf, fun c _ => Shape.has_empty c, hcomponents ▸ hnodup⟩
  · rintro ⟨hwf, _, hnodup⟩
    exact ⟨hwf, hcomponents ▸ hnodup⟩

theorem template_toList (f : Format) : f.template.toList = Template.sourceFrom 0 f.head f.groups :=
  String.toList_ofList

/-- A template is read as the one well-formed format that it is the written form of. -/
theorem ofTemplate_eq_ok_iff {template : String} {f : Format} :
    ofTemplate template = .ok f ↔ f.WellFormed ∧ f.template = template := by
  have hread : Template.readOpen [] .empty 0 template.toList = .ok (f.head, f.groups) ↔
      template.toList = Template.sourceFrom 0 f.head f.groups ∧
        Template.Follows .empty f.head f.groups := Template.readOpen_eq_ok_iff
  have hsource : f.template = template ↔
      template.toList = Template.sourceFrom 0 f.head f.groups := by
    rw [← template_toList, String.toList_inj, eq_comm]
  rw [wellFormed_iff, hsource, and_comm, ← hread, ofTemplate]
  split
  · rename_i head groups hok
    rw [hok, Except.ok.injEq, Except.ok.injEq, Prod.mk.injEq]
    cases f
    rw [mk.injEq]
  · rename_i herror
    rw [herror]
    constructor
    · intro h; cases h
    · intro h; cases h

end Format

/-- Reading templates and writing formats are inverse to each other: what is read is exactly the
written forms of well-formed formats, each as the format that it is the written form of. -/
theorem templates_correspond_to_formats :
    (∀ template, (∃ f, Format.ofTemplate template = .ok f) ↔
      ∃ f : Format, f.WellFormed ∧ template = f.template) ∧
    (∀ f : Format, f.WellFormed → Format.ofTemplate f.template = .ok f) ∧
    (∀ template f, Format.ofTemplate template = .ok f → f.WellFormed ∧ f.template = template) ∧
    ∀ template template' f f', Format.ofTemplate template = .ok f →
      Format.ofTemplate template' = .ok f' → (f = f' ↔ template = template') := by
  refine ⟨fun template => ?_, fun f hf => ?_, fun template f h => ?_, ?_⟩
  · simp only [Format.ofTemplate_eq_ok_iff]
    exact exists_congr fun f => and_congr_right fun _ => eq_comm
  · exact Format.ofTemplate_eq_ok_iff.mpr ⟨hf, rfl⟩
  · exact Format.ofTemplate_eq_ok_iff.mp h
  · intro template template' f f' h h'
    constructor
    · rintro rfl
      rw [← (Format.ofTemplate_eq_ok_iff.mp h).2, (Format.ofTemplate_eq_ok_iff.mp h').2]
    · rintro rfl
      rw [h] at h'
      exact Except.ok.inj h'

end DatePrompt
