import OperatorNames.Transfer.Response

/-!
# Responses that are cut short

Where the head of a response tells how its body ends, a connection that is closed too early never
gives another response than the whole would have given: what has come until then is read as the same
response, or as none (`eq_of_read_part`).  So the body of a response that does not redirect is carried
in whole by the octets that were sent (`carries_of_read`).
-/

namespace OperatorNames.Transfer

/-! ## Bodies in chunks -/

theorem ChunkReader.foldlM_step_ended {r : ChunkReader} (hended : r.stage = .ended) (b : Bytes) :
    b.foldlM ChunkReader.step r = .ok r := by
  induction b with
  | nil => rfl
  | cons octet rest ih =>
      have hstep : r.step octet = .ok r := by
        unfold ChunkReader.step
        rw [hended]
      rw [List.foldlM_cons, hstep]
      exact ih

theorem unchunk_eq_ok_iff (b body : Bytes) :
    unchunk b = .ok body ↔
      ∃ r, b.foldlM ChunkReader.step {} = .ok r ∧ r.stage = .ended ∧ body = r.done.reverse := by
  unfold unchunk
  cases hread : b.foldlM ChunkReader.step {} with
  | error fault => simp
  | ok r =>
      by_cases hended : r.stage = .ended
      · simp [hended, eq_comm]
      · simp [hended]

/-- What follows the end of a body in chunks does not count. -/
theorem unchunk_append {part body : Bytes} (hpart : unchunk part = .ok body) (more : Bytes) :
    unchunk (part ++ more) = .ok body := by
  rw [unchunk_eq_ok_iff] at hpart ⊢
  obtain ⟨r, hread, hended, hbody⟩ := hpart
  refine ⟨r, ?_, hended, hbody⟩
  rw [List.foldlM_append, hread]
  exact ChunkReader.foldlM_step_ended hended more

/-! ## Bodies -/

/-- A body whose end can be told does not change with what comes after it. -/
theorem Head.body_append {h : Head} (hframed : h.isFramed = true) {part body : Bytes}
    (hpart : h.body part = .ok body) (more : Bytes) : h.body (part ++ more) = .ok body := by
  unfold Head.body at hpart ⊢
  split at hpart
  · next hbodiless => rw [if_pos hbodiless, hpart]
  · next hbodiless =>
      rw [if_neg hbodiless]
      split at hpart
      · next hchunked =>
          rw [if_pos hchunked]
          exact unchunk_append hpart more
      · next hchunked =>
          rw [if_neg hchunked]
          cases hlength : h.length with
          | none => simp [Head.isFramed, hchunked, hlength] at hframed
          | some n =>
              rw [hlength] at hpart
              dsimp only at hpart ⊢
              split at hpart
              · cases hpart
              -- the announced length was there already
              · next henough =>
                  rw [if_neg (by rw [List.length_append]; omega),
                    List.take_append_of_le_length (by omega)]
                  exact hpart

/-- When a response is given, and which. -/
theorem Head.response_eq_ok_iff {h : Head} {rest : Bytes} {r : Response} :
    h.response rest = .ok r ↔
      ¬ (h.isInformational && rest.isEmpty) = true ∧
      ((h.location = none ∧ ∃ body, h.body rest = .ok body ∧ r = { status := h.status, body }) ∨
        ∃ location, h.location = some location ∧
          r = { status := h.status, redirect := some location } ∧
          ((h.closes || !h.isFramed) = true ∨ ∃ body, h.body rest = .ok body)) := by
  unfold Head.response
  by_cases hanswer : (h.isInformational && rest.isEmpty) = true
  · simp [hanswer]
  · rw [if_neg hanswer]
    cases h.location with
    | none =>
        cases h.body rest with
        | error fault => simp [Except.map]
        | ok body => simp [hanswer, Except.map, eq_comm (b := r)]
    | some location =>
        by_cases hskipped : (h.closes || !h.isFramed) = true
        · simp [hanswer, hskipped, eq_comm (b := r)]
        · cases h.body rest with
          | error fault => simp [hskipped, Except.map]
          | ok body => simp [hanswer, hskipped, Except.map, eq_comm (b := r)]

theorem Head.response_append {h : Head} (hframed : h.isFramed = true) {part : Bytes}
    {r : Response} (hpart : h.response part = .ok r) (more : Bytes) :
    h.response (part ++ more) = .ok r := by
  rw [Head.response_eq_ok_iff] at hpart ⊢
  obtain ⟨hanswer, hresponse⟩ := hpart
  constructor
  · -- an answer is given even more if more comes after it
    intro hboth
    rw [Bool.and_eq_true, List.isEmpty_iff, List.append_eq_nil_iff] at hboth
    exact hanswer (by rw [hboth.1, hboth.2.1]; rfl)
  · obtain ⟨hstays, body, hbody, hr⟩ | ⟨location, hlocation, hr, hread⟩ := hresponse
    · exact .inl ⟨hstays, body, Head.body_append hframed hbody more, hr⟩
    · refine .inr ⟨location, hlocation, hr, ?_⟩
      obtain hskipped | ⟨body, hbody⟩ := hread
      · exact .inl hskipped
      · exact .inr ⟨body, Head.body_append hframed hbody more⟩

/-! ## Heads -/

/-- What follows a head is left over when the head is cut off. -/
theorem cutHead_append {lines : List Bytes} {begun b rest : Bytes}
    (hrest : (cutHead lines begun b).rest = some rest) (more : Bytes) :
    cutHead lines begun (b ++ more) =
      { cutHead lines begun b with rest := some (rest ++ more) } := by
  induction b generalizing lines begun with
  | nil => cases hrest
  | cons octet tail ih =>
      rw [List.cons_append]
      simp only [cutHead] at hrest ⊢
      by_cases hfeed : octet = 0x0A
      · rw [if_pos hfeed] at hrest ⊢
        rw [if_pos hfeed]
        by_cases hlast : ((begun.isEmpty || decide (begun.getLast? = some 0x0D)) && !lines.isEmpty)
            = true
        · rw [if_pos hlast] at hrest ⊢
          rw [if_pos hlast]
          cases hrest
          rfl
        · rw [if_neg hlast] at hrest ⊢
          rw [if_neg hlast]
          exact ih hrest
      · rw [if_neg hfeed] at hrest ⊢
        rw [if_neg hfeed]
        exact ih hrest

/-- What a head is cut off from begins with that head. -/
theorem exists_front_of_cutHead {lines : List Bytes} {begun b rest : Bytes}
    (hrest : (cutHead lines begun b).rest = some rest) :
    ∃ front, b = front ++ rest ∧
      cutHead lines begun front = { cutHead lines begun b with rest := some [] } := by
  induction b generalizing lines begun with
  | nil => cases hrest
  | cons octet tail ih =>
      simp only [cutHead] at hrest ⊢
      by_cases hfeed : octet = 0x0A
      · rw [if_pos hfeed] at hrest ⊢
        by_cases hlast : ((begun.isEmpty || decide (begun.getLast? = some 0x0D)) && !lines.isEmpty)
            = true
        · rw [if_pos hlast] at hrest ⊢
          cases hrest
          refine ⟨[octet], rfl, ?_⟩
          rw [cutHead, if_pos hfeed, if_pos hlast]
        · rw [if_neg hlast] at hrest ⊢
          obtain ⟨front, rfl, hfront⟩ := ih hrest
          refine ⟨octet :: front, rfl, ?_⟩
          rw [cutHead, if_pos hfeed, if_neg hlast, hfront]
      · rw [if_neg hfeed] at hrest ⊢
        obtain ⟨front, rfl, hfront⟩ := ih hrest
        refine ⟨octet :: front, rfl, ?_⟩
        rw [cutHead, if_neg hfeed, hfront]

/-- Octets that are the head of a response and no more, with the heads of provisional responses before
it, if there are any.  `later` tells whether a head came before them on the connection. -/
inductive IsHead : Bool → Bytes → Head → Prop
  /-- The head that counts. -/
  | final {later : Bool} {sent statusLine stub : Bytes} {lines : List Bytes} {h : Head}
      (hcut : cutHead [] [] sent = { lines := statusLine :: lines, stub, rest := some [] })
      (hlines : Head.ofLines later (charsOf statusLine) (lines.map charsOf) = .ok h)
      (hfinal : ¬ h.isProvisional = true) : IsHead later sent h
  /-- A provisional one and what follows it. -/
  | provisional {later : Bool} {first more statusLine stub : Bytes} {lines : List Bytes}
      {passing h : Head}
      (hcut : cutHead [] [] first = { lines := statusLine :: lines, stub, rest := some [] })
      (hlines : Head.ofLines later (charsOf statusLine) (lines.map charsOf) = .ok passing)
      (hpassing : passing.isProvisional = true) (hmore : IsHead true more h) :
      IsHead later (first ++ more) h

/-- What is read after a first head. -/
theorem readFrom_of_cutHead {later : Bool} {sent statusLine stub rest : Bytes} {lines : List Bytes}
    {h : Head}
    (hcut : cutHead [] [] sent = { lines := statusLine :: lines, stub, rest := some rest })
    (hlines : Head.ofLines later (charsOf statusLine) (lines.map charsOf) = .ok h) :
    Response.readFrom later sent =
      if h.isProvisional then Response.readFrom true rest else h.response rest := by
  rw [Response.readFrom]
  split
  · next hnone =>
      rw [hcut] at hnone
      cases hnone
  · next hsome =>
      rw [hcut] at hsome
      cases hsome
      rw [hlines]

/-- After octets that are a head and no more, everything is left over. -/
theorem cutHead_append_of_nil {b stub : Bytes} {lines : List Bytes}
    (hcut : cutHead [] [] b = { lines, stub, rest := some [] }) (more : Bytes) :
    cutHead [] [] (b ++ more) = { lines, stub, rest := some more } := by
  have hrest : (cutHead [] [] b).rest = some [] := by rw [hcut]
  rw [cutHead_append hrest, hcut, List.nil_append]

/-- After a head comes its body. -/
theorem readFrom_append {later : Bool} {head : Bytes} {h : Head} (hhead : IsHead later head h)
    (rest : Bytes) : Response.readFrom later (head ++ rest) = h.response rest := by
  induction hhead with
  | @final later sent statusLine stub lines h hcut hlines hfinal =>
      rw [readFrom_of_cutHead (cutHead_append_of_nil hcut rest) hlines, if_neg hfinal]
  | @provisional later first more statusLine stub lines passing h hcut hlines hpassing hmore ih =>
      rw [List.append_assoc, readFrom_of_cutHead (cutHead_append_of_nil hcut _) hlines,
        if_pos hpassing, ih]

/-! ## Whole responses -/

/-- **A response that is cut short within its body is never taken for another one.**  Where the head
tells how the body ends, what is read from a part of what follows it is read from the whole too. -/
theorem eq_of_read_part {head part rest : Bytes} {h : Head} {r whole : Response}
    (hhead : IsHead false head h) (hframed : h.isFramed = true) (hpart : part <+: rest)
    (hread : Response.read (head ++ part) = .ok r)
    (hwhole : Response.read (head ++ rest) = .ok whole) : r = whole := by
  obtain ⟨more, rfl⟩ := hpart
  rw [Response.read, readFrom_append hhead] at hread hwhole
  rw [Head.response_append hframed hread more] at hwhole
  cases hwhole
  rfl

/-- The body of a response that does not redirect is the one that its head tells of. -/
theorem Head.body_of_response {h : Head} {rest : Bytes} {r : Response}
    (hread : h.response rest = .ok r) (hstays : r.redirect = none) : h.body rest = .ok r.body := by
  obtain ⟨-, ⟨-, body, hbody, rfl⟩ | ⟨location, -, rfl, -⟩⟩ := Head.response_eq_ok_iff.mp hread
  · exact hbody
  · cases hstays

/-- Where nothing follows the head, the body has no octet. -/
theorem Head.body_nil {h : Head} {body : Bytes} (hbody : h.body [] = .ok body) : body = [] := by
  unfold Head.body at hbody
  split at hbody
  · cases hbody
    rfl
  · split at hbody
    · cases hbody
    · split at hbody
      · cases hbody
        rfl
      · split at hbody
        · cases hbody
        · cases hbody
          exact List.take_nil

/-- A response that does not redirect has been read after a head or, if the connection ended within
the head, has no body. -/
theorem exists_isHead_or_nil {later : Bool} {sent : Bytes} {r : Response}
    (hread : Response.readFrom later sent = .ok r) (hstays : r.redirect = none) :
    (∃ head h rest, IsHead later head h ∧ sent = head ++ rest) ∨ r.body = [] := by
  fun_induction Response.readFrom later sent with
  | case1 => cases hread
  | case2 => cases hread
  | case3 => cases hread
  | case4 => cases hread
  | case5 later sent statusLine lines stub h =>
      -- the connection ended within the head
      exact .inr (Head.body_nil (Head.body_of_response hread hstays))
  | case6 later sent statusLine lines stub passing hlines rest _ hpassing hcut ih =>
      obtain ⟨head, h, body, hhead, rfl⟩ | hnone := ih hread
      · obtain ⟨front, rfl, hfront⟩ := exists_front_of_cutHead (by rw [hcut])
        rw [hcut] at hfront
        refine .inl ⟨front ++ head, h, body, .provisional hfront hlines hpassing hhead, ?_⟩
        rw [List.append_assoc]
      · exact .inr hnone
  | case7 later sent statusLine lines stub h hlines rest _ hfinal hcut =>
      obtain ⟨front, rfl, hfront⟩ := exists_front_of_cutHead (by rw [hcut])
      rw [hcut] at hfront
      exact .inl ⟨front, h, rest, .final hfront hlines hfinal, rfl⟩

/-- What the octets that a server has sent carry as the body of a response, in whole. -/
structure Carries (sent body : Bytes) : Prop where
  /-- It is what the head tells of.  If the head tells how the body ends, no octets that could still
  have come would have made another one of it. -/
  whole : ∀ head h rest, IsHead false head h → sent = head ++ rest →
    h.body rest = .ok body ∧
    (h.isFramed = true → ∀ more r, Response.read (sent ++ more) = .ok r → r.body = body)
  /-- Where the connection has ended within the head, there is none. -/
  headless : (∀ head h rest, IsHead false head h → sent ≠ head ++ rest) → body = []

theorem carries_of_read {sent : Bytes} {response : Response}
    (hread : Response.read sent = .ok response) (hstays : response.redirect = none) :
    Carries sent response.body where
  whole := by
    rintro head h rest hhead rfl
    refine ⟨?_, fun hframed more r hmore => ?_⟩
    · rw [Response.read, readFrom_append hhead] at hread
      exact Head.body_of_response hread hstays
    · rw [List.append_assoc] at hmore
      rw [eq_of_read_part hhead hframed (List.prefix_append rest more) hread hmore]
  headless := by
    intro hnone
    obtain ⟨head, h, rest, hhead, hsent⟩ | hempty := exists_isHead_or_nil hread hstays
    · exact absurd hsent (hnone head h rest hhead)
    · exact hempty

end OperatorNames.Transfer
