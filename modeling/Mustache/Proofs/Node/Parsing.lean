import Mustache.Proofs.Node.Agreement
import Mustache.Proofs.Node.Nesting

/-! # Parsing is what the grammar says
The parser finds the body of a section by counting names, the grammar by nesting; yet the parser
accepts what the grammar accepts, if sections are not nested too deep (`parseNodes_of_template`),
stops at the first one that is too deep (`parseNodes_tooDeep`), and accepts nothing else
(`template_of_parseNodes`). All three are about queues of tokens, and carry over to scanners because
parsing depends on the tokens alone. -/

namespace Mustache.Parser

open Grammar TokenSource

variable {ts rest : List Token} {last : Terminal} {node : Node} {nodes : List Node}
variable {left : Token} {q : TokenQueue} {parsers : Option BodyParser}

/-! ## Tags -/

/-- **A tag without a body** is parsed as the node for which it stands. -/
theorem takes_parseTag_of_tag {inner : List Token} (h : Tag (left :: inner) node)
    (ht : ∀ t ∈ inner, t.isTerminal = false) :
    Takes (parseTag parsers (TokenQueue.mk (inner ++ ts) last)) node ⟨ts, last⟩ := by
  obtain ⟨t, inner, rfl⟩ : ∃ t inner', inner = t :: inner' := by
    cases h <;> exact ⟨_, _, rfl⟩
  have hs := next_queue_cons (inner ++ ts) last (ht t List.mem_cons_self)
  obtain ⟨he, hn⟩ := kind_ne_of_isTerminal (ht t List.mem_cons_self)
  rw [List.cons_append, parseTag_of_next hs, dif_neg he, dif_neg hn]
  cases h with
  | value hl hname hr =>
    simp only [hname]
    refine ((takes_expect_iff rfl).2 ⟨hr, _, rfl, rfl⟩).bind fun _ => ?_
    exact takes_ok_iff.2 ⟨rfl, rfl⟩
  | braces hl ho hname hc hr =>
    simp only [ho]
    refine ((takes_expect_iff rfl).2 ⟨hname, _, rfl, rfl⟩).bind fun _ => ?_
    refine ((takes_expect_iff rfl).2 ⟨hc, _, rfl, rfl⟩).bind fun _ => ?_
    refine ((takes_expect_iff rfl).2 ⟨hr, _, rfl, rfl⟩).bind fun _ => ?_
    exact takes_ok_iff.2 ⟨rfl, rfl⟩
  | raw hl hsign hname hr =>
    simp only [hsign]
    refine ((takes_expect_iff rfl).2 ⟨hname, _, rfl, rfl⟩).bind fun _ => ?_
    refine ((takes_expect_iff rfl).2 ⟨hr, _, rfl, rfl⟩).bind fun _ => ?_
    exact takes_ok_iff.2 ⟨rfl, rfl⟩
  | comment hl hsign hb hr =>
    rename_i right body
    simp only [hsign]
    have hb' : ∀ t ∈ body, t.kind ≠ .rightDelimiter ∧ t.isTerminal = false :=
      fun t h => ⟨hb t h, ht t (by simp [h])⟩
    have hspan := readUntil_append ts last rfl hb' hr
    rw [List.append_cons] at hspan
    obtain ⟨_, hspan⟩ := hspan
    have htext : Takes (readComment (TokenQueue.mk (body ++ [right] ++ ts) last))
        (String.join (body.map Token.text)) ⟨ts, last⟩ :=
      ⟨_, readComment_eq_ok_iff.2 ⟨_, hspan, rfl, rfl⟩⟩
    refine htext.bind fun _ => ?_
    exact takes_ok_iff.2 ⟨rfl, rfl⟩
  | inclusion hl hsign hname hr =>
    simp only [hsign]
    refine ((takes_expect_iff rfl).2 ⟨hname, _, rfl, rfl⟩).bind fun _ => ?_
    refine ((takes_expect_iff rfl).2 ⟨hr, _, rfl, rfl⟩).bind fun _ => ?_
    exact takes_ok_iff.2 ⟨rfl, rfl⟩

/-- **What the parser takes for a tag** is a tag without a body, or a sign that opens a section and
what it takes for the section. -/
theorem tag_of_takes_parseTag (hl : left.kind = .leftDelimiter)
    (h : Takes (parseTag parsers (TokenQueue.mk ts last)) node q) :
    (∃ inner rest, ts = inner ++ rest ∧ q = ⟨rest, last⟩ ∧ Tag (left :: inner) node) ∨
      ∃ inverted sign rest, ts = sign :: rest ∧
        sign.kind = .sigil (if inverted then .inverted else .block) ∧
        Takes (parseSection parsers inverted (TokenQueue.mk rest last)) node q := by
  obtain ⟨t, q', hs⟩ : ∃ t q', next (TokenQueue.mk ts last) = (t, q') := ⟨_, _, rfl⟩
  rw [parseTag_of_next hs] at h
  split at h
  · cases h.2
  · rename_i he
    split at h
    · cases h.2
    · rename_i hn
      obtain ⟨ts', rfl, rfl⟩ := (next_queue_eq_iff (isTerminal_eq_false he hn)).1 hs
      dsimp only at h
      split at h
      · -- a name alone
        rename_i hname
        obtain ⟨right, _, _, hright, h⟩ := takes_bind_iff.1 h
        obtain ⟨hr, rest, rfl, rfl⟩ := (takes_expect_iff rfl).1 ⟨_, hright⟩
        obtain ⟨rfl, rfl⟩ := takes_ok_iff.1 h
        exact .inl ⟨[t, right], rest, rfl, rfl, .value hl hname hr⟩
      · -- a name between braces
        rename_i ho
        obtain ⟨name, _, _, hident, h⟩ := takes_bind_iff.1 h
        obtain ⟨hname, _, rfl, rfl⟩ := (takes_expect_iff rfl).1 ⟨_, hident⟩
        obtain ⟨closing, _, _, hclosing, h⟩ := takes_bind_iff.1 h
        obtain ⟨hc, _, rfl, rfl⟩ := (takes_expect_iff rfl).1 ⟨_, hclosing⟩
        obtain ⟨right, _, _, hright, h⟩ := takes_bind_iff.1 h
        obtain ⟨hr, rest, rfl, rfl⟩ := (takes_expect_iff rfl).1 ⟨_, hright⟩
        obtain ⟨rfl, rfl⟩ := takes_ok_iff.1 h
        exact .inl ⟨[t, name, closing, right], rest, rfl, rfl, .braces hl ho hname hc hr⟩
      · -- a name behind the other sign for a value as it stands
        rename_i hsign
        obtain ⟨name, _, _, hident, h⟩ := takes_bind_iff.1 h
        obtain ⟨hname, _, rfl, rfl⟩ := (takes_expect_iff rfl).1 ⟨_, hident⟩
        obtain ⟨right, _, _, hright, h⟩ := takes_bind_iff.1 h
        obtain ⟨hr, rest, rfl, rfl⟩ := (takes_expect_iff rfl).1 ⟨_, hright⟩
        obtain ⟨rfl, rfl⟩ := takes_ok_iff.1 h
        exact .inl ⟨[t, name, right], rest, rfl, rfl, .raw hl hsign hname hr⟩
      · -- a comment
        rename_i hsign
        obtain ⟨text, _, _, htext, h⟩ := takes_bind_iff.1 h
        obtain ⟨span, hspan, rfl, hrest⟩ := readComment_eq_ok_iff.1 htext
        obtain ⟨hb, hr, rest, hts, hq⟩ := eq_of_readUntil hspan
        obtain ⟨rfl, rfl⟩ := takes_ok_iff.1 h
        refine .inl ⟨t :: (span.before ++ [span.mark]), rest, by simp [hts], ?_, ?_⟩
        · rw [← hq, ← hrest]
          rfl
        · exact .comment hl hsign (fun u hu => (hb u hu).1) hr
      · -- a section
        rename_i hsign
        obtain ⟨_, q', hq', hsection, h⟩ := takes_bind_iff.1 h
        obtain ⟨rfl, rfl⟩ := takes_ok_iff.1 h
        exact .inr ⟨false, t, ts', rfl, hsign, hq', hsection⟩
      · -- an inverted section
        rename_i hsign
        obtain ⟨_, q', hq', hsection, h⟩ := takes_bind_iff.1 h
        obtain ⟨rfl, rfl⟩ := takes_ok_iff.1 h
        exact .inr ⟨true, t, ts', rfl, hsign, hq', hsection⟩
      · -- a partial
        rename_i hsign
        obtain ⟨name, _, _, hident, h⟩ := takes_bind_iff.1 h
        obtain ⟨hname, _, rfl, rfl⟩ := (takes_expect_iff rfl).1 ⟨_, hident⟩
        obtain ⟨right, _, _, hright, h⟩ := takes_bind_iff.1 h
        obtain ⟨hr, rest, rfl, rfl⟩ := (takes_expect_iff rfl).1 ⟨_, hright⟩
        obtain ⟨rfl, rfl⟩ := takes_ok_iff.1 h
        exact .inl ⟨[t, name, right], rest, rfl, rfl, .inclusion hl hsign hname hr⟩
      · cases h.2

/-- A sign that opens a section leads to the section. -/
theorem parseTag_sign (parsers : Option BodyParser) (ts : List Token) (last : Terminal)
    {inverted : Bool} {sign : Token}
    (hsign : sign.kind = .sigil (if inverted then .inverted else .block)) :
    ∃ h, parseTag parsers (TokenQueue.mk (sign :: ts) last) =
      parseSection parsers inverted (TokenQueue.mk ts last) >>= fun (node, s') =>
        .ok (node, After.trans ⟨⟨ts, last⟩, h⟩ s') := by
  have ht := isTerminal_of_kind hsign rfl
  have hs := next_queue_cons ts last ht
  obtain ⟨he, hn⟩ := kind_ne_of_isTerminal ht
  refine ⟨remaining_lt_of_next hs ht, ?_⟩
  rw [parseTag_of_next hs, dif_neg he, dif_neg hn]
  cases inverted <;> simp only [hsign] <;> rfl

/-! ## Sections -/

section Section

variable {inverted : Bool} {name right close right' : Token} {body : List Token}
variable {parseBody : BodyParser}

/-- A section whose body is collected and parsed. -/
theorem takes_parseSection (hn : name.kind = .identifier) (hr : right.kind = .rightDelimiter)
    (hcollects : Collects name 0 ⟨ts, last⟩ body ⟨close :: right' :: rest, last⟩)
    (hc : close.kind = .identifier) (hr' : right'.kind = .rightDelimiter)
    (hbody : parseBody body = .ok nodes) :
    Takes (parseSection (some parseBody) inverted (TokenQueue.mk (name :: right :: ts) last))
      (.block name.text inverted nodes) ⟨rest, last⟩ := by
  unfold parseSection
  refine ((takes_expect_iff rfl).2 ⟨hn, _, rfl, rfl⟩).bind fun _ => ?_
  refine ((takes_expect_iff rfl).2 ⟨hr, _, rfl, rfl⟩).bind fun _ => ?_
  refine hcollects.bind fun _ => ?_
  refine ((takes_expect_iff rfl).2 ⟨hc, _, rfl, rfl⟩).bind fun _ => ?_
  refine ((takes_expect_iff rfl).2 ⟨hr', _, rfl, rfl⟩).bind fun _ => ?_
  rw [hbody]
  exact takes_ok_iff.2 ⟨rfl, rfl⟩

/-- A section whose body is collected and cannot be parsed. -/
theorem parseSection_error {e : Error} (hn : name.kind = .identifier)
    (hr : right.kind = .rightDelimiter)
    (hcollects : Collects name 0 ⟨ts, last⟩ body ⟨close :: right' :: rest, last⟩)
    (hc : close.kind = .identifier) (hr' : right'.kind = .rightDelimiter)
    (hbody : parseBody body = .error e) :
    parseSection (some parseBody) inverted (TokenQueue.mk (name :: right :: ts) last) =
      .error e := by
  unfold parseSection
  refine ((takes_expect_iff rfl).2 ⟨hn, _, rfl, rfl⟩).bind_error fun _ => ?_
  refine ((takes_expect_iff rfl).2 ⟨hr, _, rfl, rfl⟩).bind_error fun _ => ?_
  refine hcollects.bind_error fun _ => ?_
  refine ((takes_expect_iff rfl).2 ⟨hc, _, rfl, rfl⟩).bind_error fun _ => ?_
  refine ((takes_expect_iff rfl).2 ⟨hr', _, rfl, rfl⟩).bind_error fun _ => ?_
  rw [hbody]
  rfl

/-- A section where no more may be opened. -/
theorem parseSection_tooDeep (hn : name.kind = .identifier) :
    parseSection none inverted (TokenQueue.mk (name :: ts) last) =
      .error (.malformed name.pos (.tooDeep sectionLimit)) := by
  unfold parseSection
  exact ((takes_expect_iff rfl).2 ⟨hn, _, rfl, rfl⟩).bind_error fun _ => rfl

/-- **What the parser takes for a section** is its name, a body that is collected and parsed, and
the rest of the tag that closes it. -/
theorem section_of_takes_parseSection
    (h : Takes (parseSection parsers inverted (TokenQueue.mk ts last)) node q) :
    ∃ parseBody name right ts' body close right' rest nodes, parsers = some parseBody ∧
      ts = name :: right :: ts' ∧ name.kind = .identifier ∧ right.kind = .rightDelimiter ∧
      Collects name 0 ⟨ts', last⟩ body ⟨close :: right' :: rest, last⟩ ∧
      close.kind = .identifier ∧ right'.kind = .rightDelimiter ∧ parseBody body = .ok nodes ∧
      node = .block name.text inverted nodes ∧ q = ⟨rest, last⟩ := by
  unfold parseSection at h
  obtain ⟨name, _, _, hname, h⟩ := takes_bind_iff.1 h
  obtain ⟨hn, _, rfl, rfl⟩ := (takes_expect_iff rfl).1 ⟨_, hname⟩
  cases parsers with
  | none => cases h.2
  | some parseBody =>
    obtain ⟨right, _, _, hright, h⟩ := takes_bind_iff.1 h
    obtain ⟨hr, ts', rfl, rfl⟩ := (takes_expect_iff rfl).1 ⟨_, hright⟩
    obtain ⟨body, q', hq', hbody, h⟩ := takes_bind_iff.1 h
    have hcollects : Collects name 0 ⟨ts', last⟩ body q' := ⟨hq', hbody⟩
    obtain ⟨_, _, close, ts'', _, -, -, -, rfl⟩ := hcollects.closed
    obtain ⟨close', _, _, hclose, h⟩ := takes_bind_iff.1 h
    obtain ⟨hc, _, heq, rfl⟩ := (takes_expect_iff rfl).1 ⟨_, hclose⟩
    cases heq
    obtain ⟨right', _, _, hright', h⟩ := takes_bind_iff.1 h
    obtain ⟨hr', rest, rfl, rfl⟩ := (takes_expect_iff rfl).1 ⟨_, hright'⟩
    dsimp only at h
    cases hnodes : parseBody body with
    | error e =>
      rw [hnodes] at h
      cases h.2
    | ok nodes =>
      rw [hnodes] at h
      obtain ⟨rfl, rfl⟩ := takes_ok_iff.1 h
      exact ⟨parseBody, name, right, ts', body, close, right', rest, nodes, rfl, rfl, hn, hr,
        hcollects, hc, hr', hnodes, rfl, rfl⟩

end Section

/-! ## Templates -/

theorem parseNodes_end (hlast : last.token.kind = .endOfInput) :
    parseNodes parsers (TokenQueue.mk [] last) = .ok [] := by
  rw [parseNodes_of_next (TokenQueue.next_nil last), if_pos hlast]

theorem parseNodes_text {t : Token} (ht : t.kind = .text) :
    parseNodes parsers (TokenQueue.mk (t :: ts) last) =
      (parseNodes parsers (TokenQueue.mk ts last)).map (.text t.text :: ·) := by
  rw [parseNodes_of_next (next_queue_cons ts last (isTerminal_of_kind ht rfl))]
  simp [ht]

/-- Behind an opening delimiter a tag is parsed. -/
theorem parseNodes_left (hl : left.kind = .leftDelimiter) :
    parseNodes parsers (TokenQueue.mk (left :: ts) last) =
      parseTag parsers (TokenQueue.mk ts last) >>= fun (node, rest) =>
        (parseNodes parsers rest.1).map (node :: ·) := by
  rw [parseNodes_of_next (next_queue_cons ts last (isTerminal_of_kind hl rfl))]
  simp only [hl]
  rfl

/-- Behind a tag that is parsed the template goes on. -/
theorem parseNodes_of_takes (hl : left.kind = .leftDelimiter)
    (h : Takes (parseTag parsers (TokenQueue.mk ts last)) node q) :
    parseNodes parsers (TokenQueue.mk (left :: ts) last) =
      (parseNodes parsers q).map (node :: ·) := by
  obtain ⟨hq, h⟩ := h
  rw [parseNodes_left hl, h]
  rfl

/-- Behind the first three tokens of a tag that opens a section, the section is parsed. -/
theorem exists_parseNodes_opener {inverted : Bool} {name : Token} {opener : List Token}
    (ho : Opener inverted name opener) (parsers : Option BodyParser) (last : Terminal) :
    ∃ right : Token, name.kind = .identifier ∧ right.kind = .rightDelimiter ∧
      ∀ ts, parseNodes parsers (TokenQueue.mk (opener ++ ts) last) =
        parseSection parsers inverted (TokenQueue.mk (name :: right :: ts) last) >>=
          fun (node, rest) => (parseNodes parsers rest.1).map (node :: ·) := by
  cases ho with
  | mk hl hs hn hr =>
    rename_i left sign right
    refine ⟨right, hn, hr, ?_⟩
    intro ts
    obtain ⟨_, htag⟩ := parseTag_sign parsers (name :: right :: ts) last hs
    show parseNodes _ (TokenQueue.mk (left :: sign :: name :: right :: ts) last) = _
    rw [parseNodes_left hl, htag, bind_assoc]
    rfl

/-- The body of a section in the grammar is the one that is collected. -/
theorem collects_of_closer {name : Token} {body closer : List Token} {children : List Node}
    (hb : Template body children) (hp : PlainComments body) (hc : Closer name.text closer) :
    ∃ close right, close.kind = .identifier ∧ right.kind = .rightDelimiter ∧
      Collects name 0 ⟨body ++ (closer ++ ts), last⟩ body ⟨close :: right :: ts, last⟩ := by
  cases hc with
  | mk hl hs hn hname hr =>
    rename_i left sign close right
    have hclose : Collects name 0 ⟨[left, sign, close, right] ++ ts, last⟩ []
        ⟨close :: right :: ts, last⟩ := collects_end hl hs hn hname
    have hend := hb.collects hp hclose
    rw [List.append_nil] at hend
    exact ⟨close, right, hn, hr, hend⟩

/-- A section is parsed when its body is, and the template goes on behind it. -/
theorem parseNodes_block {inverted : Bool} {name : Token} {opener body closer : List Token}
    {children : List Node} {parseBody : BodyParser} (ho : Opener inverted name opener)
    (hb : Template body children) (hp : PlainComments body) (hc : Closer name.text closer)
    (hbody : parseBody body = .ok children) :
    parseNodes (some parseBody) (TokenQueue.mk (opener ++ (body ++ (closer ++ ts))) last) =
      (parseNodes (some parseBody) (TokenQueue.mk ts last)).map
        (.block name.text inverted children :: ·) := by
  obtain ⟨right, hn, hr, hopener⟩ := exists_parseNodes_opener ho (some parseBody) last
  obtain ⟨close, right', hclose, hr', hcollects⟩ := collects_of_closer hb hp hc
  obtain ⟨_, hsection⟩ := takes_parseSection hn hr hcollects hclose hr' hbody
  rw [hopener, hsection]
  rfl

/-- A section fails with its body. -/
theorem parseNodes_block_error {inverted : Bool} {name : Token} {opener body closer : List Token}
    {children : List Node} {parseBody : BodyParser} {e : Error} (ho : Opener inverted name opener)
    (hb : Template body children) (hp : PlainComments body) (hc : Closer name.text closer)
    (hbody : parseBody body = .error e) :
    parseNodes (some parseBody) (TokenQueue.mk (opener ++ (body ++ (closer ++ ts))) last) =
      .error e := by
  obtain ⟨right, hn, hr, hopener⟩ := exists_parseNodes_opener ho (some parseBody) last
  obtain ⟨close, right', hclose, hr', hcollects⟩ := collects_of_closer hb hp hc
  rw [hopener, parseSection_error hn hr hcollects hclose hr' hbody]
  rfl

/-- Where no section may be opened, one that does is an error. -/
theorem parseNodes_block_tooDeep {inverted : Bool} {name : Token} {opener : List Token}
    (ho : Opener inverted name opener) :
    parseNodes none (TokenQueue.mk (opener ++ ts) last) =
      .error (.malformed name.pos (.tooDeep sectionLimit)) := by
  obtain ⟨right, hn, -, hopener⟩ := exists_parseNodes_opener ho none last
  rw [hopener, parseSection_tooDeep hn]
  rfl

/-- A tag without a body is parsed, and the template goes on behind it. -/
theorem parseNodes_tag {tag : List Token} (h : Tag tag node)
    (ht : ∀ t ∈ tag, t.isTerminal = false) :
    parseNodes parsers (TokenQueue.mk (tag ++ ts) last) =
      (parseNodes parsers (TokenQueue.mk ts last)).map (node :: ·) := by
  obtain ⟨left, inner, rfl, hl⟩ : ∃ left inner, tag = left :: inner ∧
      left.kind = .leftDelimiter := by
    cases h with
    | value hl | braces hl | raw hl | comment hl | inclusion hl => exact ⟨_, _, rfl, hl⟩
  refine parseNodes_of_takes hl (takes_parseTag_of_tag h ?_)
  exact fun t h => ht t (List.mem_cons_of_mem left h)

/-! ## The parser accepts the grammar -/

/-- **A template within the limit** is parsed as the nodes for which it stands. -/
theorem parseNodes_of_template (h : Template ts nodes) (hp : PlainComments ts) {room : Nat}
    (hd : Node.depthAll nodes ≤ room) (hlast : last.token.kind = .endOfInput) :
    parseNodes (bodies room) (TokenQueue.mk ts last) = .ok nodes := by
  -- the body of a section is parsed from a queue of its own, with room for one section less
  induction h generalizing room last with
  | nil => exact parseNodes_end hlast
  | text ht _ ih =>
    rename_i t ts nodes _
    have hd : Node.depthAll nodes ≤ room := by simpa [Node.depthAll, Node.depth] using hd
    rw [parseNodes_text ht, ih (hp.of_infix (List.suffix_cons t ts).isInfix) hd hlast]
    rfl
  | tag ht _ ih =>
    rename_i tag ts node nodes _
    have hplain := ht.plain (hp.of_infix (List.prefix_append tag ts).isInfix)
    rw [Node.depthAll] at hd
    rw [parseNodes_tag ht fun t h => (hplain t h).2.2,
      ih (hp.of_infix (List.suffix_append tag ts).isInfix) (by omega) hlast]
    rfl
  | block ho hb hc _ ihb ih =>
    rename_i inverted name opener body closer ts children nodes _
    rw [Node.depthAll, Node.depth] at hd
    cases room with
    | zero => omega
    | succ room =>
      have hpb : PlainComments body := hp.of_infix ⟨opener, closer ++ ts, by simp⟩
      have hpt : PlainComments ts := hp.of_infix ⟨opener ++ (body ++ closer), [], by simp⟩
      have hbody : parseNodes (bodies room) (TokenQueue.ofTokens body) = .ok children :=
        ihb hpb (by omega) rfl
      have hts : parseNodes (bodies (room + 1)) (TokenQueue.mk ts last) = .ok nodes :=
        ih hpt (by omega) hlast
      rw [bodies] at hts ⊢
      rw [parseNodes_block ho hb hpb hc hbody, hts]
      rfl

/-- The grammar is unambiguous: tokens stand for one list of nodes at most. -/
theorem nodes_unique {nodes' : List Node} (h : Template ts nodes) (h' : Template ts nodes')
    (hp : PlainComments ts) : nodes = nodes' := by
  have hparse : parseNodes (bodies (max (Node.depthAll nodes) (Node.depthAll nodes')))
      (TokenQueue.ofTokens ts) = .ok nodes :=
    parseNodes_of_template h hp (Nat.le_max_left _ _) rfl
  rw [TokenQueue.ofTokens, parseNodes_of_template h' hp (Nat.le_max_right _ _) rfl] at hparse
  exact (Except.ok.inj hparse).symm

/-- **A template beyond the limit** is an error at the name of the first section that is too
deep. -/
theorem parseNodes_tooDeep (h : Template ts nodes) (hp : PlainComments ts) {room level : Nat}
    (hd : room < Node.depthAll nodes) :
    ∃ name, (∀ rest, firstBeyond (level + room) level (ts ++ rest) = some name) ∧
      parseNodes (bodies room) (TokenQueue.mk ts last) =
        .error (.malformed name.pos (.tooDeep sectionLimit)) := by
  -- the level of nesting and the room that is left always add up to the same
  induction h generalizing room level last with
  | nil => simp [Node.depthAll] at hd
  | text ht _ ih =>
    rename_i t ts nodes _
    have hd : room < Node.depthAll nodes := by simpa [Node.depthAll, Node.depth] using hd
    obtain ⟨name, hname, herror⟩ := ih (hp.of_infix (List.suffix_cons t ts).isInfix) hd
    refine ⟨name, ?_, ?_⟩
    · intro rest
      rw [List.cons_append, firstBeyond_cons_of_plain (plain_of_kind ht (by decide)), hname]
    · rw [parseNodes_text ht, herror]
      rfl
  | tag ht _ ih =>
    rename_i tag ts node nodes _
    have hplain := ht.plain (hp.of_infix (List.prefix_append tag ts).isInfix)
    have hnode : Node.depth node = 0 := by cases ht <;> rfl
    rw [Node.depthAll, hnode, Nat.zero_max] at hd
    obtain ⟨name, hname, herror⟩ := ih (hp.of_infix (List.suffix_append tag ts).isInfix) hd
    refine ⟨name, ?_, ?_⟩
    · intro rest
      rw [List.append_assoc, firstBeyond_append_of_plain hplain, hname]
    · rw [parseNodes_tag ht fun t h => (hplain t h).2.2, herror]
      rfl
  | block ho hb hc _ ihb ih =>
    rename_i inverted name opener body closer ts children nodes _
    have hpb : PlainComments body := hp.of_infix ⟨opener, closer ++ ts, by simp⟩
    have hpt : PlainComments ts := hp.of_infix ⟨opener ++ (body ++ closer), [], by simp⟩
    rw [Node.depthAll, Node.depth] at hd
    cases room with
    | zero =>
      -- the section itself is too deep
      refine ⟨name, ?_, parseNodes_block_tooDeep ho⟩
      intro rest
      rw [List.append_assoc]
      exact firstBeyond_opener_limit ho
    | succ room =>
      have hopener : ∀ rest, firstBeyond (level + (room + 1)) level
          (opener ++ (body ++ (closer ++ ts)) ++ rest) =
            firstBeyond (level + 1 + room) (level + 1) (body ++ (closer ++ (ts ++ rest))) := by
        intro rest
        simp only [List.append_assoc]
        rw [firstBeyond_opener ho (by omega), Nat.add_right_comm, Nat.add_assoc level]
      by_cases hbody : room < Node.depthAll children
      · -- a section in the body is too deep
        obtain ⟨name', hname, herror⟩ : ∃ name', (∀ rest, firstBeyond (level + 1 + room) (level + 1)
            (body ++ rest) = some name') ∧ parseNodes (bodies room) (TokenQueue.ofTokens body) =
              .error (.malformed name'.pos (.tooDeep sectionLimit)) := ihb hpb hbody
        refine ⟨name', ?_, ?_⟩
        · intro rest
          rw [hopener, hname]
        · rw [bodies]
          exact parseNodes_block_error ho hb hpb hc herror
      · -- the first one that is too deep comes behind the section
        have hbody' : parseNodes (bodies room) (TokenQueue.ofTokens body) = .ok children :=
          parseNodes_of_template hb hpb (Nat.le_of_not_lt hbody) rfl
        obtain ⟨name', hname, herror⟩ : ∃ name', (∀ rest, firstBeyond (level + (room + 1)) level
            (ts ++ rest) = some name') ∧ parseNodes (bodies (room + 1)) (TokenQueue.mk ts last) =
              .error (.malformed name'.pos (.tooDeep sectionLimit)) := ih hpt (by omega)
        refine ⟨name', ?_, ?_⟩
        · intro rest
          rw [hopener, firstBeyond_template hb hpb (by omega), firstBeyond_closer hc,
            Nat.add_right_comm, Nat.add_assoc level, hname]
        · rw [bodies] at herror ⊢
          rw [parseNodes_block ho hb hpb hc hbody', herror]
          rfl

/-! ## The parser accepts nothing else -/

/-- Behind what the parser takes for a tag, the grammar has a template of that tag and what
follows it, if it has one of what follows and of the bodies inside. -/
theorem template_of_takes_parseTag {room : Nat} (hl : left.kind = .leftDelimiter)
    (h : Takes (parseTag (bodies room) (TokenQueue.mk ts last)) node q)
    (ih : ∀ room body last nodes, body.length ≤ ts.length → (∀ t ∈ body, t ∈ ts) →
      parseNodes (bodies room) (TokenQueue.mk body last) = .ok nodes →
        Template body nodes ∧ Node.depthAll nodes ≤ room) :
    ∃ rest, q = ⟨rest, last⟩ ∧ rest.length ≤ ts.length ∧ (∀ t ∈ rest, t ∈ ts) ∧
      Node.depth node ≤ room ∧
      ∀ nodes, Template rest nodes → Template (left :: ts) (node :: nodes) := by
  rcases tag_of_takes_parseTag hl h with ⟨inner, rest, rfl, rfl, htag⟩ |
    ⟨inverted, sign, ts', rfl, hs, hsection⟩
  · -- a tag without a body
    refine ⟨rest, rfl, by simp, fun t ht => List.mem_append_right inner ht, ?_, ?_⟩
    · have hnode : Node.depth node = 0 := by cases htag <;> rfl
      omega
    · intro nodes hrest
      exact .tag htag hrest
  · -- a section
    obtain ⟨parseBody, name, right, ts'', body, close, right', rest, children, hroom, rfl, hn, hr,
      hcollects, hc, hr', hbody, rfl, rfl⟩ := section_of_takes_parseSection hsection
    obtain ⟨left', mark, close', tail, rfl, hl', hmark, hname, htail⟩ := hcollects.closed
    cases htail
    cases room with
    | zero => cases hroom
    | succ room =>
      cases hroom
      obtain ⟨hchildren, hd⟩ := ih room body _ children (by simp; omega) (by simp +contextual) hbody
      refine ⟨rest, rfl, by simp; omega, by simp +contextual, ?_, ?_⟩
      · rw [Node.depth]
        omega
      · intro nodes hrest
        have hclose : close.text = name.text := by
          simp only [isName, Bool.and_eq_true, decide_eq_true_eq] at hname
          exact hname.2
        have hblock :=
          Template.block (.mk hl hs hn hr) hchildren (.mk hl' hmark hc hclose hr') hrest
        simpa using hblock

/-- Nothing is parsed only at the end of the input. -/
theorem eq_nil_of_parseNodes_nil (h : parseNodes parsers (TokenQueue.mk [] last) = .ok nodes) :
    last.token.kind = .endOfInput ∧ nodes = [] := by
  rw [parseNodes_of_next (TokenQueue.next_nil last)] at h
  split at h
  · rename_i hlast
    cases h
    exact ⟨hlast, rfl⟩
  · rename_i hlast
    rw [if_pos ((kind_of_isTerminal last.isTerminal).resolve_right hlast)] at h
    cases h

/-- What is parsed begins with a text or with a tag. -/
theorem cases_of_parseNodes_cons {t : Token} (ht : t.isTerminal = false)
    (h : parseNodes parsers (TokenQueue.mk (t :: ts) last) = .ok nodes) :
    (∃ rest, t.kind = .text ∧ nodes = .text t.text :: rest ∧
      parseNodes parsers (TokenQueue.mk ts last) = .ok rest) ∨
    ∃ node rest q, t.kind = .leftDelimiter ∧ nodes = node :: rest ∧
      Takes (parseTag parsers (TokenQueue.mk ts last)) node q ∧
      parseNodes parsers q = .ok rest := by
  by_cases htext : t.kind = .text
  · left
    rw [parseNodes_text htext] at h
    obtain ⟨rest, hrest, rfl⟩ := exists_of_map_eq_ok h
    exact ⟨rest, htext, rfl, hrest⟩
  · by_cases hl : t.kind = .leftDelimiter
    · right
      cases htag : parseTag parsers (TokenQueue.mk ts last) with
      | error e =>
        rw [parseNodes_left hl, htag] at h
        cases h
      | ok r =>
        obtain ⟨node, q, hq⟩ := r
        rw [parseNodes_of_takes hl ⟨hq, htag⟩] at h
        obtain ⟨rest, hrest, rfl⟩ := exists_of_map_eq_ok h
        exact ⟨node, rest, q, hl, rfl, ⟨hq, rfl⟩, hrest⟩
    · -- no other token stands between texts and tags
      obtain ⟨he, hn⟩ := kind_ne_of_isTerminal ht
      rw [parseNodes_of_next (next_queue_cons ts last ht), if_neg hn, if_neg he, if_neg htext,
        if_neg hl] at h
      cases h

/-- **What is parsed is a template** within the limit, up to the end of the input. -/
theorem template_of_parseNodes {room : Nat}
    (h : parseNodes (bodies room) (TokenQueue.mk ts last) = .ok nodes)
    (hts : ∀ t ∈ ts, t.isTerminal = false) :
    last.token.kind = .endOfInput ∧ Template ts nodes ∧ Node.depthAll nodes ≤ room := by
  -- by induction on the number of tokens: the bodies of sections and what follows a tag are shorter
  induction hlen : ts.length using Nat.strong_induction_on generalizing ts room last nodes with
  | _ n ih =>
    cases ts with
    | nil =>
      obtain ⟨hlast, rfl⟩ := eq_nil_of_parseNodes_nil h
      exact ⟨hlast, .nil, Nat.zero_le _⟩
    | cons t ts =>
      have htail : ∀ u ∈ ts, u.isTerminal = false := fun u hu => hts u (List.mem_cons_of_mem t hu)
      rw [List.length_cons] at hlen
      rcases cases_of_parseNodes_cons (hts t List.mem_cons_self) h with
        ⟨nodes, htext, rfl, hrest⟩ | ⟨node, nodes, q, hl, rfl, htag, hrest⟩
      · obtain ⟨hlast, htemplate, hd⟩ := ih _ (by omega) hrest htail rfl
        exact ⟨hlast, .text htext htemplate, by simpa [Node.depthAll, Node.depth] using hd⟩
      · obtain ⟨rest, rfl, hlt, hmem, hd, htemplate⟩ := template_of_takes_parseTag hl htag
          fun room body last nodes hlt hmem hbody =>
            (ih _ (by omega) hbody (fun u hu => htail u (hmem u hu)) rfl).2
        obtain ⟨hlast, hrest', hd'⟩ :=
          ih _ (by omega) hrest (fun u hu => htail u (hmem u hu)) rfl
        refine ⟨hlast, htemplate nodes hrest', ?_⟩
        rw [Node.depthAll]
        omega

/-! ## Scanners -/

/-- The tokens of a scanner are parsed as if they were in store. -/
theorem parse_scanner_eq {s : Scanner} (h : s.tokens = ts ++ [last.token])
    (hts : ∀ t ∈ ts, t.isTerminal = false) :
    Node.parse s = parseNodes (bodies sectionLimit) (TokenQueue.mk ts last) :=
  parseNodes_eq_of_alike ⟨ts, last.token, yields_scanner h, yields_queue hts last⟩ _

/-- What a scanner accepts, as tokens in store. -/
theorem exists_queue_of_accepts {s : Scanner} (h : Accepts s ts nodes) :
    ∃ last : Terminal, Node.parse s = parseNodes (bodies sectionLimit) (TokenQueue.mk ts last) ∧
      last.token.kind = .endOfInput ∧ Template ts nodes ∧ PlainComments ts := by
  obtain ⟨t, heq, hk, htemplate⟩ := h
  obtain ⟨ts', t', heq', hts, ht⟩ := s.exists_tokens_eq
  obtain ⟨rfl, rfl⟩ := List.append_singleton_inj.1 (heq.symm.trans heq')
  refine ⟨⟨t, ht⟩, parse_scanner_eq heq hts, hk, htemplate, ?_⟩
  exact s.plainComments_tokens.of_infix (heq ▸ (List.prefix_append ts [t]).isInfix)

/-- What a scanner accepts within the limit is parsed. -/
theorem parse_of_accepts {s : Scanner} (h : Accepts s ts nodes)
    (hd : Node.depthAll nodes ≤ sectionLimit) : Node.parse s = .ok nodes := by
  obtain ⟨last, hparse, hlast, htemplate, hplain⟩ := exists_queue_of_accepts h
  rw [hparse]
  exact parseNodes_of_template htemplate hplain hd hlast

/-- What a scanner accepts beyond the limit is an error at the first section that is too deep. -/
theorem parse_tooDeep_of_accepts {s : Scanner} (h : Accepts s ts nodes)
    (hd : sectionLimit < Node.depthAll nodes) :
    ∃ name, firstBeyond sectionLimit 0 ts = some name ∧
      Node.parse s = .error (.malformed name.pos (.tooDeep sectionLimit)) := by
  obtain ⟨last, hparse, hlast, htemplate, hplain⟩ := exists_queue_of_accepts h
  obtain ⟨name, hname, herror⟩ := parseNodes_tooDeep htemplate hplain hd
  refine ⟨name, ?_, hparse.trans herror⟩
  have hfirst := hname []
  rwa [List.append_nil, Nat.zero_add] at hfirst

/-- What is parsed is accepted. -/
theorem accepts_of_parse {s : Scanner} (h : Node.parse s = .ok nodes) :
    ∃ ts, Accepts s ts nodes ∧ Node.depthAll nodes ≤ sectionLimit := by
  obtain ⟨ts, t, heq, hts, ht⟩ := s.exists_tokens_eq
  have hparse : Node.parse s = parseNodes (bodies sectionLimit) (TokenQueue.mk ts ⟨t, ht⟩) :=
    parse_scanner_eq heq hts
  rw [hparse] at h
  obtain ⟨hlast, htemplate, hd⟩ := template_of_parseNodes h hts
  exact ⟨ts, ⟨t, heq, hlast, htemplate⟩, hd⟩

end Mustache.Parser

namespace Mustache.Node

open Mustache.Parser Grammar

/-- **A template is parsed as the grammar says**: it has these nodes exactly when its tokens stand
for them and no more sections than allowed are in one another. If the tokens stand for nodes with
more sections in one another, the error is at the name of the first section that is inside too
many. -/
theorem parse_ofTexts_iff_accepts (opening closing source : String) :
    (∀ nodes, Node.parse (Scanner.ofTexts opening closing source) = .ok nodes ↔
      ∃ ts, Accepts (Scanner.ofTexts opening closing source) ts nodes ∧
        Node.depthAll nodes ≤ sectionLimit) ∧
    ∀ ts nodes, Accepts (Scanner.ofTexts opening closing source) ts nodes →
      sectionLimit < Node.depthAll nodes →
      ∃ name, firstBeyond sectionLimit 0 ts = some name ∧
        Node.parse (Scanner.ofTexts opening closing source) =
          .error (.malformed name.pos (.tooDeep sectionLimit)) := by
  refine ⟨fun nodes => ⟨accepts_of_parse, ?_⟩, ?_⟩
  · rintro ⟨ts, h, hd⟩
    exact parse_of_accepts h hd
  · intro ts nodes h hd
    exact parse_tooDeep_of_accepts h hd

end Mustache.Node
