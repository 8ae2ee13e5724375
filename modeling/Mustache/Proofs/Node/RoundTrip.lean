import Mustache.Proofs.Node.Parsing
import Mustache.Proofs.Node.Printing

/-! # Reading what was printed
The scanner goes through a written form part by part: over blanks, a sign, a name, and the closing
delimiter (`Scanner.run_blanks` and its like). So a tag gives the tokens of a tag in the grammar, a
tree those of a template (`Scanner.run_prints`), and parsing gives the tree back. -/

namespace Mustache

open Text

namespace Delimiters

variable {d : Delimiters} {c : Char} {name : String} {text rest : List Char}

/-! ## What does not close a tag -/

/-- A tag goes on at a character at which it cannot close. -/
theorem Inside.goesOn (h : d.Inside c) (text : List Char) : d.GoesOn (c :: text) := by
  refine goesOn_iff.2 ⟨?_, ?_⟩
  · intro hp
    exact h.1 (List.cons_prefix_cons.1 hp).1.symm
  · intro hp
    obtain ⟨x, xs, hx⟩ := List.exists_cons_of_ne_nil d.closing_ne_nil
    rw [hx] at hp
    refine h.2 ?_
    rw [hx, List.head?_cons, (List.cons_prefix_cons.1 hp).1]

/-- No blank closes a tag. -/
theorem Tame.inside_of_blank (hd : d.Tame) (hc : isTagBlank c = true) : d.Inside c := by
  have hne : ∀ x, isTagBlank x = false → c ≠ x := by
    rintro x hx rfl
    rw [hc] at hx
    cases hx
  refine ⟨hne _ rfl, ?_⟩
  intro hhead
  rcases hd with rfl | hd
  · exact hne '\x7d' rfl (Option.some.inj hhead).symm
  · exact hne c (hd c hhead).1 rfl

/-- No sign closes a tag. -/
theorem Tame.inside_of_sign (hd : d.Tame) (hc : (Sigil.ofChar? c).isSome) : d.Inside c := by
  have hne : ∀ x, Sigil.ofChar? x = none → c ≠ x := by
    rintro x hx rfl
    rw [hx] at hc
    cases hc
  refine ⟨hne _ rfl, ?_⟩
  intro hhead
  rcases hd with rfl | hd
  · exact hne '\x7d' rfl (Option.some.inj hhead).symm
  · exact hne c (hd c hhead).2.2.1 rfl

/-- What may follow a tag: between default delimiters a closing brace behind them would belong to
the tag. -/
def Follows (d : Delimiters) (rest : List Char) : Prop := d = braces → rest.head? ≠ some '\x7d'

/-- A tag may follow a tag. -/
theorem follows_opening (d : Delimiters) (rest : List Char) : d.Follows (d.opening ++ rest) := by
  rintro rfl
  simp [braces]

/-- The closing delimiter is not taken for the one of a raw tag. -/
theorem Tame.dropRawClosing?_eq_none (hd : d.Tame) (hrest : d.Follows rest) :
    d.dropRawClosing? (d.closing ++ rest) = none := by
  rw [dropRawClosing?, dropMark?_eq_none_iff]
  intro hp
  rcases hd with rfl | hd
  · -- three braces would have to stand there
    have hp : '\x7d' :: '\x7d' :: ['\x7d'] <+: '\x7d' :: '\x7d' :: rest := hp
    simp only [List.cons_prefix_cons, true_and] at hp
    obtain ⟨tail, rfl⟩ := hp
    exact hrest rfl rfl
  · -- the closing delimiter begins with another character
    obtain ⟨x, xs, hx⟩ := List.exists_cons_of_ne_nil d.closing_ne_nil
    rw [hx, List.cons_append, List.cons_prefix_cons] at hp
    exact (hd x (by rw [hx]; rfl)).2.2.2 hp.1.symm

/-- A name ends where the tag does, behind any blanks. -/
theorem endsName_of_blanks {blanks mark : List Char} (hb : Blanks blanks)
    (hmark : mark = [] ∨ mark = ['\x7d']) :
    d.endsName (blanks ++ (mark ++ (d.closing ++ rest))) = true := by
  obtain ⟨x, xs, hx⟩ := List.exists_cons_of_ne_nil d.closing_ne_nil
  cases blanks with
  | cons b blanks =>
    have hblank : isTagBlank b = true := by
      rcases hb b List.mem_cons_self with rfl | rfl | rfl <;> rfl
    rw [List.cons_append, endsName, hblank]
    rfl
  | nil =>
    rcases hmark with rfl | rfl
    · have hclose : (d.dropClosing? (d.closing ++ rest)).isSome := by
        rw [dropClosing?, dropMark?_append]
        rfl
      rw [hx, List.cons_append] at hclose
      rw [List.nil_append, List.nil_append, hx, List.cons_append, endsName, hclose]
      simp
    · have hclose : (d.dropRawClosing? ('\x7d' :: d.closing ++ rest)).isSome := by
        rw [dropRawClosing?, dropMark?_append]
        rfl
      rw [List.cons_append] at hclose
      rw [List.nil_append, List.singleton_append, endsName, hclose]
      simp

/-- The part of a text that belongs to a name is the name, if it ends there. -/
theorem cutName_append_of_endsName (htext : ∀ c ∈ text, isTagBlank c = false ∧ d.Inside c)
    (hrest : d.endsName rest = true) : d.cutName (text ++ rest) = (text, rest) := by
  induction text with
  | nil =>
    cases rest with
    | nil => rfl
    | cons c rest => rw [List.nil_append, cutName, if_pos hrest]
  | cons c text ih =>
    obtain ⟨hblank, hinside⟩ := htext c List.mem_cons_self
    have hgo := hinside.goesOn (text ++ rest)
    have hends : ¬ d.endsName (c :: (text ++ rest)) = true := by
      rw [endsName, hblank, hgo.1, hgo.2]
      decide
    rw [List.cons_append, cutName, if_neg hends, ih fun c' h => htext c' (List.mem_cons_of_mem c h)]

end Delimiters

namespace Scanner

variable {d : Delimiters} {c : Char} {name : String} {rest blanks : List Char}

/-! ## Parts of a tag -/

/-- Over blanks. -/
theorem run_blanks (hd : d.Tame) (hb : Blanks blanks) (pos : Position) (rest : List Char) :
    Run (.tag d pos (blanks ++ rest)) [] (.tag d (pos.after blanks) rest) := by
  -- a blank neither closes the tag nor, not being a line feed, ends it
  induction blanks generalizing pos with
  | nil => exact .refl _
  | cons b blanks ih =>
    have hblank : isTagBlank b = true ∧ b ≠ '\n' := by
      rcases hb b List.mem_cons_self with rfl | rfl | rfl <;> decide
    have hgo := (hd.inside_of_blank hblank.1).goesOn (blanks ++ rest)
    refine .silent (.blank hgo hblank.2 hblank.1) ?_
    exact ih (fun c hc => hb c (List.mem_cons_of_mem b hc)) (pos.next b)

/-- Over a sign that begins no comment. -/
theorem run_sign (hd : d.Tame) {sign : Sigil} (hc : Sigil.ofChar? c = some sign)
    (hs : sign ≠ .comment) (pos : Position) (rest : List Char) :
    Run (.tag d pos (c :: rest)) [⟨.sigil sign, String.singleton c, pos⟩]
      (.tag d (pos.next c) rest) := by
  have hgo := (hd.inside_of_sign (by rw [hc]; rfl)).goesOn rest
  exact .single (.sign hgo hc hs) rfl

/-- Over a name. -/
theorem run_name (hname : d.Names name) (hrest : d.endsName rest = true) (pos : Position) :
    Run (.tag d pos (name.toList ++ rest)) [⟨.identifier, name, pos⟩]
      (.tag d (pos.after name.toList) rest) := by
  obtain ⟨c, cs, hcs, hstart⟩ := hname.start
  have hinside := hname.inside
  rw [hcs, List.forall_mem_cons] at hinside
  have hcut := Delimiters.cutName_append_of_endsName hinside.2 hrest
  have hm : Move (.tag d pos (c :: (cs ++ rest))) _ _ :=
    .name (hinside.1.2.goesOn (cs ++ rest)) hstart
  rw [hcut, ← hcs, String.ofList_toList] at hm
  rw [hcs]
  rw [hcs] at hm
  exact .single hm rfl

/-- Over the closing delimiter. -/
theorem run_close (hd : d.Tame) (hrest : d.Follows rest) (pos : Position) :
    Run (.tag d pos (d.closing ++ rest)) [⟨.rightDelimiter, String.ofList d.closing, pos⟩]
      (.text d (pos.after d.closing) rest) :=
  .single (.close (hd.dropRawClosing?_eq_none hrest) rfl) rfl

/-- Over the closing brace of a raw tag and the closing delimiter. -/
theorem run_rawClose (d : Delimiters) (pos : Position) (rest : List Char) :
    Run (.tag d pos ('\x7d' :: (d.closing ++ rest)))
      [⟨.sigil .rawEnd, "\x7d", pos⟩,
        ⟨.rightDelimiter, String.ofList d.closing, pos.next '\x7d'⟩]
      (.text d ((pos.next '\x7d').after d.closing) rest) :=
  .token (.rawEnd rfl) rfl (.single .closing rfl)

/-! ## Fronts and backs of tags -/

/-- A text that does not seem to begin a tag that changes the delimiters. -/
def NoChange (text : List Char) : Prop := text.head? ≠ some '='

theorem noChange_blanks (hb : Blanks blanks) (h : NoChange rest) : NoChange (blanks ++ rest) := by
  cases blanks with
  | nil => exact h
  | cons b blanks =>
    intro heq
    have hbeq : b = '=' := Option.some.inj heq
    rcases hb b List.mem_cons_self with rfl | rfl | rfl <;> cases hbeq

theorem noChange_name (hname : d.Names name) (rest : List Char) :
    NoChange (name.toList ++ rest) := by
  obtain ⟨c, cs, hcs, hstart⟩ := hname.start
  rw [hcs]
  intro heq
  have hceq : c = '=' := Option.some.inj heq
  rw [hceq] at hstart
  revert hstart
  decide +kernel

theorem noChange_sign {sign : Sigil} (hc : Sigil.ofChar? c = some sign) (rest : List Char) :
    NoChange (c :: rest) := by
  intro heq
  have hceq : c = '=' := Option.some.inj heq
  rw [hceq] at hc
  cases hc

/-- Over the opening delimiter and blanks. -/
theorem run_front (hd : d.Tame) (hb : Blanks blanks) (hrest : NoChange rest) (pos : Position) :
    Run (.text d pos (d.opening ++ (blanks ++ rest)))
      [⟨.leftDelimiter, String.ofList d.opening, pos⟩]
      (.tag d ((pos.after d.opening).after blanks) rest) := by
  have hopen : Move (.text d pos (d.opening ++ (blanks ++ rest))) _ _ :=
    .openTag rfl (noChange_blanks hb hrest)
  exact .token hopen rfl (run_blanks hd hb _ rest)

/-- Over the opening delimiter, blanks, a sign, and blanks. -/
theorem run_signFront {blanks' : List Char} {sign : Sigil} (hd : d.Tame) (hb : Blanks blanks)
    (hc : Sigil.ofChar? c = some sign) (hs : sign ≠ .comment) (hb' : Blanks blanks')
    (pos : Position) (rest : List Char) :
    Run (.text d pos (d.opening ++ (blanks ++ (c :: (blanks' ++ rest)))))
      [⟨.leftDelimiter, String.ofList d.opening, pos⟩,
        ⟨.sigil sign, String.singleton c, (pos.after d.opening).after blanks⟩]
      (.tag d ((((pos.after d.opening).after blanks).next c).after blanks') rest) :=
  (run_front hd hb (noChange_sign hc _) pos).trans <|
    (run_sign hd hc hs _ _).trans (run_blanks hd hb' _ rest)

/-- Over a name, blanks and the closing delimiter. -/
theorem run_back (hd : d.Tame) (hname : d.Names name) (hb : Blanks blanks)
    (hrest : d.Follows rest) (pos : Position) :
    Run (.tag d pos (name.toList ++ (blanks ++ (d.closing ++ rest))))
      [⟨.identifier, name, pos⟩,
        ⟨.rightDelimiter, String.ofList d.closing, (pos.after name.toList).after blanks⟩]
      (.text d (((pos.after name.toList).after blanks).after d.closing) rest) := by
  have hends : d.endsName (blanks ++ ([] ++ (d.closing ++ rest))) = true :=
    Delimiters.endsName_of_blanks hb (.inl rfl)
  exact (run_name hname hends pos).trans ((run_blanks hd hb _ _).trans (run_close hd hrest _))

/-- Over a name, blanks, a closing brace and the closing delimiter. -/
theorem run_rawBack (hd : d.Tame) (hname : d.Names name) (hb : Blanks blanks) (pos : Position)
    (rest : List Char) :
    Run (.tag d pos (name.toList ++ (blanks ++ ('\x7d' :: (d.closing ++ rest)))))
      [⟨.identifier, name, pos⟩, ⟨.sigil .rawEnd, "\x7d", (pos.after name.toList).after blanks⟩,
        ⟨.rightDelimiter, String.ofList d.closing,
          ((pos.after name.toList).after blanks).next '\x7d'⟩]
      (.text d ((((pos.after name.toList).after blanks).next '\x7d').after d.closing) rest) := by
  have hends : d.endsName (blanks ++ (['\x7d'] ++ (d.closing ++ rest))) = true :=
    Delimiters.endsName_of_blanks hb (.inr rfl)
  exact (run_name hname hends pos).trans ((run_blanks hd hb _ _).trans (run_rawClose d _ rest))

/-! ## Tags -/

/-- A run outside tags, with its text and its last place written differently. -/
theorem Run.of_eq {text text' : List Char} {pos p p' : Position} {ts : List Token}
    (h : Run (.text d pos text') ts (.text d p' rest)) (ht : text = text') (hp : p = p') :
    Run (.text d pos text) ts (.text d p rest) := by
  rw [ht, hp]
  exact h

section Tags

open Grammar

variable {tag : List Char} {pos : Position}

/-- **A tag with a name alone** gives the tokens of such a tag. -/
theorem run_value (hd : d.Tame) (hname : d.Names name) (htag : d.Written [] name [] tag)
    (hrest : d.Follows rest) :
    ∃ ts, Run (.text d pos (tag ++ rest)) ts (.text d (pos.after tag) rest) ∧
      Tag ts (.interpolation name true) := by
  obtain ⟨hbefore, hbetween, hbehind⟩ := htag
  rename_i before between behind
  have hname' := noChange_name hname (behind ++ (d.closing ++ rest))
  have hfront := run_front hd hbefore (noChange_blanks hbetween hname') pos
  have hback := run_back hd hname hbehind hrest
  have hrun := hfront.trans ((run_blanks hd hbetween _ _).trans (hback _))
  exact ⟨_, hrun.of_eq (by simp) (by simp), .value rfl rfl rfl⟩

/-- **A tag with a name between braces** gives the tokens of such a tag. -/
theorem run_braces (hd : d.Tame) (hname : d.Names name)
    (htag : d.Written ['\x7b'] name ['\x7d'] tag) :
    ∃ ts, Run (.text d pos (tag ++ rest)) ts (.text d (pos.after tag) rest) ∧
      Tag ts (.interpolation name false) := by
  obtain ⟨hbefore, hbetween, hbehind⟩ := htag
  have hfront := run_signFront (c := '\x7b') hd hbefore rfl (by decide) hbetween pos
  have hrun := (hfront _).trans (run_rawBack hd hname hbehind _ rest)
  exact ⟨_, hrun.of_eq (by simp) (by simp), .braces rfl rfl rfl rfl rfl⟩

/-- **A tag with a sign and a name** gives a sign and a name between delimiters. -/
theorem run_signed {sign : Sigil} (hd : d.Tame) (hname : d.Names name)
    (hc : Sigil.ofChar? c = some sign) (hs : sign ≠ .comment) (htag : d.Written [c] name [] tag)
    (hrest : d.Follows rest) :
    ∃ left s ident right, Run (.text d pos (tag ++ rest)) [left, s, ident, right]
        (.text d (pos.after tag) rest) ∧ left.kind = .leftDelimiter ∧ s.kind = .sigil sign ∧
      ident.kind = .identifier ∧ ident.text = name ∧ right.kind = .rightDelimiter := by
  obtain ⟨hbefore, hbetween, hbehind⟩ := htag
  have hfront := run_signFront hd hbefore hc hs hbetween pos
  have hrun := (hfront _).trans (run_back hd hname hbehind hrest _)
  exact ⟨_, _, _, _, hrun.of_eq (by simp) (by simp), rfl, rfl, rfl, rfl, rfl⟩

/-- **A comment** gives the tokens of a comment. -/
theorem run_comment {t : String} (hd : d.Tame) (hb : Blanks blanks)
    (ht : Clear d.closing t.toList) :
    ∃ ts, Run (.text d pos (d.opening ++ (blanks ++ ('!' :: (t.toList ++ (d.closing ++ rest)))))) ts
        (.text d (pos.after (d.opening ++ (blanks ++ ('!' :: (t.toList ++ d.closing))))) rest) ∧
      Tag ts (.comment t) := by
  have hsign := noChange_sign (c := '!') rfl (t.toList ++ (d.closing ++ rest))
  have hfront := run_front hd hb hsign pos
  have hgo := (hd.inside_of_sign (c := '!') rfl).goesOn (t.toList ++ (d.closing ++ rest))
  have hbody : ∀ p, Move (.comment d p (t.toList ++ (d.closing ++ rest)))
      (some ⟨.text, t, p⟩) (.closing d (p.after t.toList) rest) := by
    intro p
    have hm : Move (.comment d p (t.toList ++ (d.closing ++ rest))) _ _ :=
      .commentBody (List.append_assoc _ _ _).symm ht
    rwa [String.ofList_toList] at hm
  have hrun := hfront.trans <| .token (.commentSign hgo rfl) rfl <|
    .token (hbody _) rfl (.single .closing rfl)
  refine ⟨_, hrun.of_eq rfl (by simp), ?_⟩
  exact tag_comment rfl rfl Token.Kind.noConfusion rfl

end Tags

/-! ## Trees -/

section Trees

open Grammar

variable {behindTag beforeTag : Bool} {nodes : List Node} {text : List Char}

/-- What may stand behind the written form of some nodes: a tag, or nothing. -/
def Stops (d : Delimiters) (beforeTag : Bool) (rest : List Char) : Prop :=
  if beforeTag = true then d.opening <+: rest else rest = []

/-- The written forms of a tag begin with the opening delimiter. -/
theorem opening_prefix_of_written {sign mark tag : List Char} (h : d.Written sign name mark tag) :
    d.opening <+: tag := by
  obtain ⟨_, _, _⟩ := h
  exact List.prefix_append _ _

/-- Unless they begin with a text, the written forms of some nodes begin with a tag, or a tag
follows them. -/
theorem opening_prefix_of_prints (hp : Node.Prints d nodes text)
    (hfirst : ∀ node ∈ nodes.head?, node.isText = false) (hne : nodes ≠ [] ∨ beforeTag = true)
    (hrest : Stops d beforeTag rest) : d.opening <+: text ++ rest := by
  cases hp with
  | nil =>
    have hbefore := hne.resolve_left fun h => h rfl
    rwa [Stops, if_pos hbefore] at hrest
  | text => cases hfirst _ rfl
  | value htag | braces htag | raw htag | inclusion htag =>
    rw [List.append_assoc]
    exact (opening_prefix_of_written htag).trans (List.prefix_append _ _)
  | block ho =>
    rw [List.append_assoc]
    exact (opening_prefix_of_written ho).trans (List.prefix_append _ _)
  | comment =>
    rw [List.append_assoc]
    exact List.prefix_append _ _

/-- The written forms of nodes that may stand behind a tag may follow it. -/
theorem follows_of_prints (hp : Node.Prints d nodes text) (hf : Node.Fits d true beforeTag nodes)
    (hrest : Stops d beforeTag rest) : d.Follows (text ++ rest) := by
  have htag : d.opening <+: text ++ rest → d.Follows (text ++ rest) := by
    rintro ⟨tail, htail⟩
    rw [← htail]
    exact d.follows_opening tail
  by_cases hfirst : ∀ node ∈ nodes.head?, node.isText = false
  · by_cases hne : nodes ≠ [] ∨ beforeTag = true
    · exact htag (opening_prefix_of_prints hp hfirst hne hrest)
    · -- nothing is left
      rw [not_or, not_not] at hne
      obtain ⟨rfl, hbefore⟩ := hne
      rw [Stops, if_neg hbefore] at hrest
      cases hp
      rintro -
      simp [hrest]
  · -- a text follows
    cases hf with
    | text hne hbrace _ _ _ _ =>
      cases hp with
      | text _ =>
        rintro -
        obtain ⟨c, cs, hcs⟩ := List.exists_cons_of_ne_nil hne
        have := hbrace rfl
        rw [hcs] at this ⊢
        exact this
    | _ => simp [Node.isText] at hfirst

/-- A text that fits before some nodes is one token. -/
theorem move_text {t : String} (hp : Node.Prints d nodes text) (hne : t.toList ≠ [])
    (hnext : ∀ node ∈ nodes.head?, node.isText = false)
    (hlast : nodes = [] → beforeTag = false → ¬ d.opening <:+: t.toList)
    (hclear : nodes ≠ [] ∨ beforeTag = true → Clear d.opening t.toList)
    (hrest : Stops d beforeTag rest) (pos : Position) :
    Move (.text d pos (t.toList ++ (text ++ rest))) (some ⟨.text, t, pos⟩)
      (.text d (pos.after t.toList) (text ++ rest)) := by
  by_cases hmore : nodes ≠ [] ∨ beforeTag = true
  · -- a tag follows the text
    obtain ⟨tail, htail⟩ := opening_prefix_of_prints hp hnext hmore hrest
    have hm : Move (.text d pos (t.toList ++ (d.opening ++ tail))) _ _ :=
      .textBefore hne (List.append_assoc _ _ _).symm (hclear hmore)
    rwa [htail, String.ofList_toList] at hm
  · -- the text is the last part of the template
    rw [not_or, not_not] at hmore
    obtain ⟨rfl, hbefore⟩ := hmore
    rw [Stops, if_neg hbefore] at hrest
    cases hp
    have hm : Move (.text d pos t.toList) _ _ := .lastText hne (hlast rfl (by simpa using hbefore))
    rw [String.ofList_toList] at hm
    simpa [hrest] using hm

/-- The tokens of a tag and those of a template behind it are those of a template. -/
theorem exists_run_tag {tag : List Char} {node : Node} {pos : Position}
    (htag : ∃ ts, Run (.text d pos (tag ++ (text ++ rest))) ts
      (.text d (pos.after tag) (text ++ rest)) ∧ Tag ts node)
    (hbehind : ∃ ts, Run (.text d (pos.after tag) (text ++ rest)) ts
      (.text d ((pos.after tag).after text) rest) ∧ Template ts nodes) :
    ∃ ts, Run (.text d pos (tag ++ text ++ rest)) ts (.text d (pos.after (tag ++ text)) rest) ∧
      Template ts (node :: nodes) := by
  obtain ⟨tag', hrun, htag⟩ := htag
  obtain ⟨ts, hruns, htemplate⟩ := hbehind
  exact ⟨tag' ++ ts, (hrun.trans hruns).of_eq (by simp) (by simp), .tag htag htemplate⟩

/-- **A written tree is read as the tokens of a template** with its nodes. -/
theorem run_prints (hp : Node.Prints d nodes text) (hf : Node.Fits d behindTag beforeTag nodes)
    (hd : d.Tame) (hrest : Stops d beforeTag rest) (pos : Position) :
    ∃ ts, Run (.text d pos (text ++ rest)) ts (.text d (pos.after text) rest) ∧
      Template ts nodes := by
  -- along the written form, whatever stands behind it: the body of a section stops before a tag
  induction hp generalizing behindTag beforeTag rest pos with
  | nil => exact ⟨[], .refl _, .nil⟩
  | text hp ih =>
    rename_i t nodes text
    cases hf with
    | text hne _ hnext hlast hclear hf =>
      obtain ⟨ts, hrun, htemplate⟩ := ih hf hrest _
      have hmove := move_text hp hne hnext hlast hclear hrest pos
      refine ⟨⟨.text, t, pos⟩ :: ts, ?_, .text rfl htemplate⟩
      exact Run.of_eq (.token hmove rfl hrun) (by simp) (by simp)
  | value htag hp ih =>
    cases hf with
    | interpolation hname hf =>
      exact exists_run_tag (run_value hd hname htag (follows_of_prints hp hf hrest))
        (ih hf hrest _)
  | braces htag hp ih =>
    cases hf with
    | interpolation hname hf => exact exists_run_tag (run_braces hd hname htag) (ih hf hrest _)
  | raw htag hp ih =>
    cases hf with
    | interpolation hname hf =>
      obtain ⟨_, _, _, _, hrun, hl, hs, hn, rfl, hr⟩ :=
        run_signed hd hname rfl (by decide) htag (follows_of_prints hp hf hrest)
      exact exists_run_tag ⟨_, hrun, .raw hl hs hn hr⟩ (ih hf hrest _)
  | inclusion htag hp ih =>
    cases hf with
    | inclusion hname hf =>
      obtain ⟨_, _, _, _, hrun, hl, hs, hn, rfl, hr⟩ :=
        run_signed hd hname rfl (by decide) htag (follows_of_prints hp hf hrest)
      exact exists_run_tag ⟨_, hrun, .inclusion hl hs hn hr⟩ (ih hf hrest _)
  | comment hbefore hp ih =>
    cases hf with
    | comment hclear hf =>
      obtain ⟨tag, hrun, htag⟩ := run_comment hd hbefore hclear
      obtain ⟨ts, hruns, htemplate⟩ := ih hf hrest _
      exact ⟨tag ++ ts, (hrun.trans hruns).of_eq (by simp) (by simp), .tag htag htemplate⟩
  | block ho hbody hc hp ihbody ih =>
    rename_i name inverted body nodes opener inner closer text
    cases hf with
    | block hname hfbody hf =>
      have hsign : Sigil.ofChar? (if inverted then '^' else '#') =
          some (if inverted then .inverted else .block) := by
        cases inverted <;> rfl
      have hstops : Stops d true (closer ++ (text ++ rest)) :=
        (opening_prefix_of_written hc).trans (List.prefix_append _ _)
      -- the tag that opens the section, its body, the tag that closes it, and what follows
      obtain ⟨left, sign, ident, right, hopen, hl, hs, hn, htext, hr⟩ :=
        run_signed hd hname hsign (by cases inverted <;> decide) ho
          (follows_of_prints hbody hfbody hstops)
      obtain ⟨tokens, hinner, hchildren⟩ := ihbody hfbody hstops _
      obtain ⟨left', sign', ident', right', hclose, hl', hs', hn', htext', hr'⟩ :=
        run_signed hd hname rfl (by decide) hc (follows_of_prints hp hf hrest)
      obtain ⟨ts, hruns, htemplate⟩ := ih hf hrest _
      have hrun := hopen.trans (hinner.trans (hclose.trans hruns))
      refine ⟨_, hrun.of_eq (by simp) (by simp), ?_⟩
      rw [← htext]
      exact .block (.mk hl hs hn hr) hchildren (.mk hl' hs' hn' (htext'.trans htext.symm) hr')
        htemplate

end Trees

end Scanner

namespace Node

open Mustache.Parser

/-- **Parsing undoes printing**: every written form of a tree that can be read is parsed as the
tree. -/
theorem parse_of_prints {d : Delimiters} {nodes : List Node} {text : List Char} (hd : d.Tame)
    (hf : Node.Fits d false false nodes) (hdepth : Node.depthAll nodes ≤ sectionLimit)
    (hp : Node.Prints d nodes text) :
    Node.parse (Scanner.ofTexts (String.ofList d.opening) (String.ofList d.closing)
      (String.ofList text)) = .ok nodes := by
  rw [Scanner.ofTexts_eq_text, String.toList_ofList]
  have hstops : Scanner.Stops d false [] := rfl
  obtain ⟨ts, hrun, htemplate⟩ := Scanner.run_prints hp hf hd hstops Position.start
  rw [List.append_nil] at hrun
  have htokens := hrun.tokens_eq
  rw [Scanner.tokens_of_move_terminal .endOfInput rfl] at htokens
  exact parse_of_accepts ⟨_, htokens, rfl, htemplate⟩ hdepth

/-- A tree with every kind of node under other delimiters, and one of its written forms. -/
theorem parse_letter :
    Node.parse (Scanner.ofTexts (String.ofList ['<', '%']) (String.ofList ['%', '>'])
        (String.ofList ("Dear <%#guest%><% >\tname %>, <%/ guest %><%!y<%\n%><%& a.b%>" ++
          "x<%^c%><%\x7bc\x7d%><%/c%>").toList)) =
      .ok [.text "Dear ", .block "guest" false [.inclusion "name", .text ", "],
        .comment "y<%\n", .interpolation "a.b" false, .text "x",
        .block "c" true [.interpolation "c" false]] := by
  let d : Delimiters := { opening := ['<', '%'], closing := ['%', '>'] }
  have hd : d.Tame := by
    right
    rintro c ⟨rfl⟩
    decide +kernel
  have hguest : d.Names "guest" := by decide +kernel
  have hname : d.Names "name" := by decide +kernel
  have hab : d.Names "a.b" := by decide +kernel
  have hc : d.Names "c" := by decide +kernel
  have hfits : Node.Fits d false false [.text "Dear ",
      .block "guest" false [.inclusion "name", .text ", "], .comment "y<%\n",
      .interpolation "a.b" false, .text "x", .block "c" true [.interpolation "c" false]] := by
    refine .text (by decide) (by decide) (by decide) (by decide) (by decide) ?_
    refine .block hguest (.inclusion hname ?_) (.comment (by decide) (.interpolation hab ?_))
    · exact .text (by decide) (by decide) (by decide) (by decide) (by decide) .nil
    · refine .text (by decide) (by decide) (by decide) (by decide) (by decide) ?_
      exact .block hc (.interpolation hc .nil) .nil
  -- the tags one by one, and the whole from them
  have hn : Blanks [] := by decide
  have hb : Blanks [' '] := by decide
  have ht : Blanks ['\t'] := by decide
  have hguest₁ : d.Written ['#'] "guest" [] "<%#guest%>".toList := .mk hn hn hn
  have hguest₂ : d.Written ['/'] "guest" [] "<%/ guest %>".toList := .mk hn hb hb
  have hname' : d.Written ['>'] "name" [] "<% >\tname %>".toList := .mk hb ht hb
  have hab' : d.Written ['&'] "a.b" [] "<%& a.b%>".toList := .mk hn hb hn
  have hc₁ : d.Written ['^'] "c" [] "<%^c%>".toList := .mk hn hn hn
  have hc₂ : d.Written ['/'] "c" [] "<%/c%>".toList := .mk hn hn hn
  have hc' : d.Written ['\x7b'] "c" ['\x7d'] "<%\x7bc\x7d%>".toList := .mk hn hn hn
  have hprints : Node.Prints d [.text "Dear ", .block "guest" false [.inclusion "name", .text ", "],
      .comment "y<%\n", .interpolation "a.b" false, .text "x",
      .block "c" true [.interpolation "c" false]] _ :=
    .text <| .block hguest₁ (.inclusion hname' (.text .nil)) hguest₂ <| .comment hn <|
      .raw hab' <| .text <| .block hc₁ (.braces hc' .nil) hc₂ .nil
  exact parse_of_prints hd hfits (by decide) hprints

end Node

end Mustache
