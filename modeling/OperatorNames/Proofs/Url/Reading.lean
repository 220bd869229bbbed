import OperatorNames.Proofs.Toml.Spelling.Blanks
import OperatorNames.Proofs.Url.Canonical

/-!
# Reading addresses as they are written

An address is cut where it was put together: the parts of the writing of a canonical address are the
parts that it was written from.  This does not depend on how its host is written, so that an address
on a host that reads in some other way is read in the same way (`Url.read_writeAt`).
-/

namespace OperatorNames.Url

open Text

/-! ## Putting together -/

/-- The scheme in writing, with the colon and the slashes after it. -/
def opening (scheme : Scheme) : Text :=
  scheme.name ++ [':', '/', '/']

/-- What is written before the host, without the sign after it. -/
def user? (u : Url) : Option Text :=
  match u.password with
  | some password => some (u.username ++ ':' :: password)
  | none => if u.username.isEmpty then none else some u.username

theorem credentials_eq (u : Url) :
    u.credentials = match u.user? with
      | some user => user ++ ['@']
      | none => [] := by
  unfold credentials user?
  cases u.password with
  | some password => rfl
  | none => cases u.username <;> rfl

/-- The port in writing, after its colon. -/
def portText (u : Url) : Text :=
  announced ':' (u.port.map decimal)

/-- What follows the host and the port. -/
def afterAuthority (u : Url) : Text :=
  u.pathText ++ (announced '?' u.query ++ announced '#' u.fragment)

/-- What is written after the scheme and the slashes, with a given writing of the host. -/
def writeAt (u : Url) (host : Text) : Text :=
  u.credentials ++ (host ++ u.portText) ++ u.afterAuthority

theorem write_eq (u : Url) :
    u.write = opening u.scheme ++ u.writeAt u.host.write := by
  simp [write, opening, writeAt, authority, target, portText, afterAuthority]

/-! ## Hosts -/

/-- Whether a text is taken as the host in whole where it stands as one. -/
structure IsHostText (host : Text) : Prop where
  /-- There is a host. -/
  ne_nil : host ≠ []
  /-- Nothing in it ends it. -/
  ends : ∀ c ∈ host, c ∉ Host.ends
  /-- It is cut at no colon. -/
  cut : ∀ after, cutHost false (host ++ after)
    = (host ++ (cutHost false after).1, (cutHost false after).2)

theorem cutHost_plain {t : Text} (hcolon : ':' ∉ t) (hopen : '[' ∉ t) (after : Text) :
    cutHost false (t ++ after) = (t ++ (cutHost false after).1, (cutHost false after).2) := by
  induction t with
  | nil => rfl
  | cons c t ih =>
      rw [List.mem_cons, not_or] at hcolon hopen
      rw [List.cons_append, cutHost, decide_eq_false (Ne.symm hcolon.1),
        if_neg (Ne.symm hopen.1)]
      dsimp only
      rw [ite_self, ih hcolon.2 hopen.2]
      rfl

theorem cutHost_inside {t : Text} (hclose : ']' ∉ t) (after : Text) :
    cutHost true (t ++ ']' :: after)
      = (t ++ ']' :: (cutHost false after).1, (cutHost false after).2) := by
  induction t with
  | nil => rfl
  | cons c t ih =>
      rw [List.mem_cons, not_or] at hclose
      rw [List.cons_append, cutHost, Bool.not_true, Bool.and_false, if_neg Bool.false_ne_true,
        if_neg (Ne.symm hclose.1)]
      dsimp only
      rw [ite_self, ih hclose.2]
      rfl

/-- A canonical host is taken in whole. -/
theorem isHostText_write {host : Host} (hhost : host.IsCanonical) : IsHostText host.write where
  ne_nil := Host.write_ne_nil hhost
  ends c hc := (Host.graphic_of_mem_write hhost hc).2
  cut after := by
    cases hhost with
    | @domain source name hname hne hnumber =>
        exact cutHost_plain (Host.not_mem_of_toAscii? hname (by decide))
          (Host.not_mem_of_toAscii? hname (by decide)) after
    | @ipv4 address haddress =>
        exact cutHost_plain (Host.not_mem_ipv4 (by decide)) (Host.not_mem_ipv4 (by decide)) after
    | @ipv6 pieces hpieces =>
        have hclose : ']' ∉ Ipv6.write pieces := by
          intro hmem
          rcases Ipv6.mem_write hmem with hcolon | ⟨n, hdigit⟩
          · cases hcolon
          · exact Ipv6.not_mem_hex (by decide) n hdigit
        have hinside := cutHost_inside hclose after
        change cutHost false ('[' :: Ipv6.write pieces ++ [']'] ++ after) = _
        rw [List.append_assoc, List.cons_append, cutHost]
        simp [hinside, Host.write]

/-! ## Cutting apart -/

theorem endsAuthority_of_not_mem {c : Char} (hc : c ∉ Host.ends) :
    endsAuthority true c = false := by
  unfold Host.ends at hc
  simp only [List.mem_cons, List.not_mem_nil, or_false, not_or] at hc
  simp [endsAuthority, isSlash, hc]

theorem not_mem_ends_of_encoded {c : Char} (hc : Percent.inCredentials c = false) :
    c ∉ Host.ends := by
  have hends : ∀ c ∈ Host.ends, Percent.inCredentials c = true := forall_mem_of_all (by decide)
  intro hmem
  rw [hends c hmem] at hc
  cases hc

/-- What the port is written with: a colon and digits. -/
theorem not_mem_ends_of_portText {u : Url} {c : Char} (hc : c ∈ u.portText) : c ∉ Host.ends := by
  unfold portText at hc
  cases hport : u.port with
  | none =>
      rw [hport] at hc
      cases hc
  | some n =>
      rw [hport] at hc
      rcases List.mem_cons.mp hc with rfl | hdigit
      · decide
      · exact forall_mem_decimal (P := (· ∉ Host.ends)) (by decide) c hdigit

theorem IsCanonical.not_mem_ends_of_user {u : Url} (hu : u.IsCanonical) {user : Text}
    (huser : u.user? = some user) : ∀ c ∈ user, c ∉ Host.ends := by
  have hname : ∀ c ∈ u.username, c ∉ Host.ends :=
    fun c hc => not_mem_ends_of_encoded (hu.username c hc)
  unfold user? at huser
  split at huser
  · next password hpassword =>
      rw [← Option.some.inj huser, List.forall_mem_append, List.forall_mem_cons]
      exact ⟨hname, by decide, fun c hc =>
        not_mem_ends_of_encoded ((hu.password password hpassword).1 c hc)⟩
  · split at huser
    · cases huser
    · rw [← Option.some.inj huser]
      exact hname

/-- Nothing before the path ends the part that names the host. -/
theorem IsCanonical.endsAuthority_eq_false {u : Url} (hu : u.IsCanonical) {host : Text}
    (hhost : IsHostText host) :
    ∀ c ∈ u.credentials ++ (host ++ u.portText), endsAuthority true c = false := by
  have hcredentials : ∀ c ∈ u.credentials, endsAuthority true c = false := by
    rw [credentials_eq]
    split
    · next user huser =>
        rw [List.forall_mem_append, List.forall_mem_singleton]
        exact ⟨fun c hc => endsAuthority_of_not_mem (hu.not_mem_ends_of_user huser c hc), by decide⟩
    · exact List.forall_mem_nil _
  rw [List.forall_mem_append, List.forall_mem_append]
  exact ⟨hcredentials, fun c hc => endsAuthority_of_not_mem (hhost.ends c hc),
    fun c hc => endsAuthority_of_not_mem (not_mem_ends_of_portText hc)⟩

theorem cutCredentials_of_not_mem {t : Text} (ht : '@' ∉ t) : cutCredentials t = (none, t) := by
  have hlast := afterLast ht (.inl rfl)
  rw [List.nil_append] at hlast
  rw [cutCredentials, hlast]
  exact if_pos rfl

theorem cutCredentials_append {t : Text} (ht : '@' ∉ t) (user : Text) :
    cutCredentials (user ++ ['@'] ++ t) = (some user, t) := by
  have hlength : (user ++ ['@'] ++ t).length = user.length + 1 + t.length := by
    rw [List.length_append, List.length_append, List.length_singleton]
  have htake : (user ++ ['@'] ++ t).take (user.length + 1 + t.length - t.length - 1) = user := by
    rw [Nat.add_sub_cancel, Nat.add_sub_cancel, List.append_assoc, List.take_left]
  rw [cutCredentials, afterLast ht (.inr ⟨user, rfl⟩), hlength, if_neg (by omega), htake]

theorem IsHostText.cutCredentials_eq {host : Text} (hhost : IsHostText host) (u : Url) :
    cutCredentials (u.credentials ++ (host ++ u.portText)) = (u.user?, host ++ u.portText) := by
  have hplace : '@' ∉ host ++ u.portText := by
    intro hmem
    rcases List.mem_append.mp hmem with hin | hport
    · exact hhost.ends _ hin (by decide)
    · exact not_mem_ends_of_portText hport (by decide)
  rw [credentials_eq]
  cases u.user? with
  | some user => exact cutCredentials_append hplace user
  | none => exact cutCredentials_of_not_mem hplace

theorem IsHostText.cutHost_eq {host : Text} (hhost : IsHostText host) (u : Url) :
    cutHost false (host ++ u.portText) = (host, u.portText) := by
  have hport : cutHost false u.portText = ([], u.portText) := by
    unfold portText
    cases u.port <;> rfl
  rw [hhost.cut, hport, List.append_nil]

/-- The steps of a path hold no sign that ends it. -/
theorem IsCanonical.pathText_plain {u : Url} (hu : u.IsCanonical) :
    ∀ c ∈ u.pathText, (!(c = '?' || c = '#')) = true := by
  intro c hc
  obtain ⟨step, hstep, hmem⟩ := List.mem_flatMap.mp hc
  rcases List.mem_cons.mp hmem with rfl | hmem
  · decide
  · have hencoded := (hu.step step hstep).encoded c hmem
    have hsigns : ∀ c ∈ ['?', '#'], Percent.inPath c = true := forall_mem_of_all (by decide)
    have hother : c ∉ ['?', '#'] := by
      intro hsign
      rw [hsigns c hsign] at hencoded
      cases hencoded
    simp only [List.mem_cons, List.not_mem_nil, or_false, not_or] at hother
    simp [hother]

theorem beginsNot_announced (u : Url) :
    Toml.BeginsNot (fun c => !(c = '?' || c = '#'))
      (announced '?' u.query ++ announced '#' u.fragment) := by
  cases u.query with
  | some query => exact Toml.beginsNot_cons (by decide) _
  | none =>
      cases u.fragment with
      | some fragment => exact Toml.beginsNot_cons (by decide) _
      | none => exact Toml.beginsNot_nil _

theorem beginsNot_fragment (fragment : Option Text) :
    Toml.BeginsNot (fun c => decide (c ≠ '#')) (announced '#' fragment) := by
  cases fragment with
  | none => exact Toml.beginsNot_nil _
  | some fragment => exact Toml.beginsNot_cons (by decide) _

theorem ne_of_not_mem {t : Text} (ht : '#' ∉ t) : ∀ c ∈ t, decide (c ≠ '#') = true :=
  fun _ hc => decide_eq_true fun h => ht (h ▸ hc)

theorem queryOf?_announced {query : Option Text} (hquery : ∀ t, query = some t → '#' ∉ t)
    (fragment : Option Text) :
    queryOf? (announced '?' query ++ announced '#' fragment) = query := by
  cases query with
  | none => cases fragment <;> rfl
  | some query =>
      change some ((query ++ announced '#' fragment).takeWhile (· ≠ '#')) = _
      rw [Toml.takeWhile_append_of_beginsNot (ne_of_not_mem (hquery query rfl))
        (beginsNot_fragment fragment)]

theorem fragmentOf?_announced {query : Option Text} (hquery : ∀ t, query = some t → '#' ∉ t)
    (fragment : Option Text) :
    fragmentOf? (announced '?' query ++ announced '#' fragment) = fragment := by
  have hfront : ∀ c ∈ announced '?' query, decide (c ≠ '#') = true := by
    cases query with
    | none => exact List.forall_mem_nil _
    | some query =>
        exact List.forall_mem_cons.mpr ⟨by decide, ne_of_not_mem (hquery query rfl)⟩
  rw [fragmentOf?, Toml.dropWhile_append_of_beginsNot hfront (beginsNot_fragment fragment)]
  cases fragment <;> rfl

/-- The parts of a written address are those that it was written from. -/
theorem partsOf_writeAt {u : Url} (hu : u.IsCanonical) {host : Text} (hhost : IsHostText host) :
    partsOf (u.writeAt host) =
      { user := u.user?, host, port := u.portText, path := u.pathText, query := u.query
        fragment := u.fragment } := by
  have hfront : ∀ c ∈ u.credentials ++ (host ++ u.portText), (!endsAuthority true c) = true := by
    intro c hc
    rw [hu.endsAuthority_eq_false hhost c hc]
    rfl
  have hbegins : Toml.BeginsNot (fun c => !endsAuthority true c) u.afterAuthority := by
    unfold afterAuthority pathText
    cases hpath : u.path with
    | nil => exact absurd hpath hu.path_ne_nil
    | cons step more => exact Toml.beginsNot_cons (by decide) _
  have hannounced := u.beginsNot_announced
  -- the slash of the path is the first sign that ends the part with the host
  unfold partsOf writeAt
  rw [Toml.takeWhile_append_of_beginsNot hfront hbegins,
    Toml.dropWhile_append_of_beginsNot hfront hbegins, hhost.cutCredentials_eq u]
  dsimp only
  rw [hhost.cutHost_eq u, afterAuthority,
    Toml.takeWhile_append_of_beginsNot hu.pathText_plain hannounced,
    Toml.dropWhile_append_of_beginsNot hu.pathText_plain hannounced]
  have hquery : ∀ query, u.query = some query → '#' ∉ query := fun query hsome =>
    (hu.query query hsome).not_mem (by decide)
  rw [queryOf?_announced hquery, fragmentOf?_announced hquery]

/-! ## Making the address again -/

theorem IsCanonical.readCredentials_eq {u : Url} (hu : u.IsCanonical) :
    readCredentials (u.user?.getD []) = (u.username, u.password) := by
  have hplain : ∀ c ∈ u.username, decide (c ≠ ':') = true := by
    intro c hc
    rw [decide_eq_true_eq]
    rintro rfl
    exact hu.username.not_mem (by decide) hc
  unfold readCredentials user?
  cases hpassword : u.password with
  | none =>
      have hbegins := Toml.beginsNot_nil (fun c => decide (c ≠ ':'))
      have htake := Toml.takeWhile_append_of_beginsNot hplain hbegins
      have hdrop := Toml.dropWhile_append_of_beginsNot hplain hbegins
      rw [List.append_nil] at htake hdrop
      have huser : (if u.username.isEmpty then none else some u.username).getD [] = u.username := by
        cases u.username <;> rfl
      dsimp only
      rw [huser, htake, hdrop, hu.username.encode_eq]
  | some password =>
      obtain ⟨hencoded, hne⟩ := hu.password password hpassword
      have hbegins : Toml.BeginsNot (fun c => decide (c ≠ ':')) (':' :: password) :=
        Toml.beginsNot_cons (by decide) _
      obtain ⟨first, more, rfl⟩ := List.exists_cons_of_ne_nil hne
      dsimp only [Option.getD_some]
      rw [Toml.takeWhile_append_of_beginsNot hplain hbegins,
        Toml.dropWhile_append_of_beginsNot hplain hbegins, hu.username.encode_eq]
      dsimp only
      rw [hencoded.encode_eq]

theorem IsCanonical.readPort_eq {u : Url} (hu : u.IsCanonical) :
    readPort u.portText = .ok u.port := by
  unfold portText
  cases hport : u.port with
  | none => rfl
  | some n =>
      have hne : (decimal n).isEmpty = false :=
        List.isEmpty_eq_false_iff.mpr (Toml.decimal_ne_nil n)
      change readPort (':' :: decimal n) = _
      rw [readPort, hne, if_neg Bool.false_ne_true, number?_decimal]
      exact if_pos (hu.port n hport).1

/-- Steps that lead onward are walked as they are. -/
theorem walk_eq {steps : List Text} (hne : steps ≠ []) (hsteps : ∀ step ∈ steps, IsStep step)
    (done : List Text) : walk done steps = done.reverse ++ steps := by
  induction steps generalizing done with
  | nil => exact absurd rfl hne
  | cons first more ih =>
      obtain ⟨hfirst, hmore⟩ := List.forall_mem_cons.mp hsteps
      cases more with
      | nil =>
          rw [walk, hfirst.not_back, hfirst.not_here, if_neg Bool.false_ne_true,
            if_neg Bool.false_ne_true, List.reverse_cons]
      | cons second more =>
          rw [walk, hfirst.not_back, hfirst.not_here, if_neg Bool.false_ne_true,
            if_neg Bool.false_ne_true, ih (List.cons_ne_nil _ _) hmore, List.reverse_cons,
            List.append_assoc]
          · rfl
          · exact List.cons_ne_nil _ _

theorem pathText_eq {u : Url} (hne : u.path ≠ []) : u.pathText = '/' :: joinWith ['/'] u.path := by
  unfold pathText
  generalize u.path = path at hne
  induction path with
  | nil => exact absurd rfl hne
  | cons first more ih =>
      cases more with
      | nil => simp [joinWith]
      | cons second more =>
          rw [List.flatMap_cons, ih (List.cons_ne_nil _ _),
            joinWith_cons _ _ (List.cons_ne_nil second more), List.append_assoc]
          rfl

theorem IsCanonical.readPath_eq {u : Url} (hu : u.IsCanonical) : readPath u.pathText = u.path := by
  have hsteps : stepsOf u.pathText = u.path := by
    rw [pathText_eq hu.path_ne_nil]
    exact cutAt_joinWith rfl hu.path_ne_nil fun step hstep => (hu.step step hstep).slash
  have hencoded : u.path.map (Percent.encode Percent.inPath) = u.path := by
    conv => rhs; rw [← List.map_id u.path]
    exact List.map_congr_left fun step hstep => (hu.step step hstep).encoded.encode_eq
  rw [Url.readPath_eq, hsteps, hencoded, walk_eq hu.path_ne_nil hu.step]
  rfl

/-- What is read of the writing of an address on a host. -/
theorem readWeb_writeAt {u : Url} (hu : u.IsCanonical) {host : Text} (hhost : IsHostText host) :
    readWeb u.scheme (u.writeAt host)
      = (Host.read host).bind fun host => .ok { u with host } := by
  have hport : (if u.port = some u.scheme.port then none else u.port) = u.port := by
    cases hport : u.port with
    | none => rfl
    | some n => exact if_neg fun h => (hu.port n hport).2 (Option.some.inj h)
  have hquery : u.query.map (Percent.encode Percent.inQuery) = u.query := by
    cases hquery : u.query with
    | none => rfl
    | some query => exact congrArg some (hu.query query hquery).encode_eq
  have hfragment : u.fragment.map (Percent.encode Percent.inFragment) = u.fragment := by
    cases hfragment : u.fragment with
    | none => rfl
    | some fragment => exact congrArg some (hu.fragment fragment hfragment).encode_eq
  rw [readWeb_eq, partsOf_writeAt hu hhost]
  dsimp only
  rw [List.isEmpty_eq_false_iff.mpr hhost.ne_nil, if_neg Bool.false_ne_true, hu.readPort_eq]
  refine congrArg _ (funext fun read => ?_)
  change Except.ok _ = _
  unfold Parts.on
  dsimp only
  rw [hu.readCredentials_eq, hport, hu.readPath_eq, hquery, hfragment]

/-! ## What an address is written with -/

theorem graphic_of_portText {u : Url} {c : Char} (hc : c ∈ u.portText) : IsGraphic c := by
  unfold portText at hc
  cases hport : u.port with
  | none =>
      rw [hport] at hc
      cases hc
  | some n =>
      rw [hport] at hc
      rcases List.mem_cons.mp hc with rfl | hdigit
      · decide
      · exact forall_mem_decimal (P := IsGraphic) (by decide) c hdigit

/-- A part that is announced can be seen if it is encoded. -/
theorem graphic_of_announced {sign : Char} (hsign : IsGraphic sign) {escaped : Char → Bool}
    (hset : Percent.IsEscapeSet escaped) {part : Option Text}
    (hpart : ∀ t, part = some t → Percent.Encoded escaped t) :
    ∀ c ∈ announced sign part, IsGraphic c := by
  cases part with
  | none => exact List.forall_mem_nil _
  | some t => exact List.forall_mem_cons.mpr ⟨hsign, (hpart t rfl).graphic hset⟩

variable {u : Url}

theorem IsCanonical.graphic_credentials (hu : u.IsCanonical) :
    ∀ c ∈ u.credentials, IsGraphic c := by
  have hset := Percent.isEscapeSet_inCredentials
  have hat : ∀ c ∈ ['@'], IsGraphic c := forall_mem_of_all (by decide)
  unfold credentials
  split
  · next password hpassword =>
      simp only [List.append_assoc, List.forall_mem_append, List.cons_append,
        List.forall_mem_cons]
      exact ⟨hu.username.graphic hset, by decide,
        (hu.password password hpassword).1.graphic hset, List.forall_mem_cons.mp hat⟩
  · split
    · exact List.forall_mem_nil _
    · exact List.forall_mem_append.mpr ⟨hu.username.graphic hset, hat⟩

theorem IsCanonical.graphic_target (hu : u.IsCanonical) : ∀ c ∈ u.target, IsGraphic c := by
  refine List.forall_mem_append.mpr ⟨fun c hc => ?_,
    graphic_of_announced (by decide) Percent.isEscapeSet_inQuery hu.query⟩
  obtain ⟨step, hstep, hmem⟩ := List.mem_flatMap.mp hc
  rcases List.mem_cons.mp hmem with rfl | hmem
  · decide
  · exact (hu.step step hstep).encoded.graphic Percent.isEscapeSet_inPath c hmem

/-- What is written besides the host can be seen. -/
theorem IsCanonical.graphic_writeAt (hu : u.IsCanonical) {host : Text} {c : Char}
    (hc : c ∈ u.writeAt host) : c ∈ host ∨ IsGraphic c := by
  have htarget := hu.graphic_target
  rw [target, List.forall_mem_append] at htarget
  unfold writeAt afterAuthority at hc
  simp only [List.mem_append] at hc
  rcases hc with (hcredentials | hhost | hport) | hpath | hquery | hfragment
  · exact .inr (hu.graphic_credentials c hcredentials)
  · exact .inl hhost
  · exact .inr (graphic_of_portText hport)
  · exact .inr (htarget.1 c hpath)
  · exact .inr (htarget.2 c hquery)
  · exact .inr (graphic_of_announced (by decide) Percent.isEscapeSet_inFragment hu.fragment c
      hfragment)

theorem graphic_opening (scheme : Scheme) : ∀ c ∈ opening scheme, IsGraphic c := by
  cases scheme <;> exact forall_mem_of_all (by decide)

/-- An address is written in characters that can be seen. -/
theorem IsCanonical.graphic_write (hu : u.IsCanonical) : ∀ c ∈ u.write, IsGraphic c := by
  intro c hc
  rw [write_eq] at hc
  rcases List.mem_append.mp hc with hopening | hrest
  · exact graphic_opening u.scheme c hopening
  · rcases hu.graphic_writeAt hrest with hhost | hgraphic
    · exact (Host.graphic_of_mem_write hu.host hhost).1
    · exact hgraphic

/-! ## Whole addresses -/

/-- Whether a character is neither a blank nor a control character. -/
def IsInk (c : Char) : Prop :=
  isBlank c = false ∧ 0x20 < c.toNat

theorem isInk_of_isGraphic {c : Char} (hc : IsGraphic c) : IsInk c := by
  unfold IsGraphic at hc
  unfold IsInk isBlank
  simp only [Bool.or_eq_false_iff, Bool.and_eq_false_iff, decide_eq_false_iff_not]
  omega

theorem stripEnds_eq {drop : Char → Bool} {t : Text} (ht : ∀ c ∈ t, drop c = false) :
    stripEnds drop t = t := by
  have hkept : ∀ {t : Text}, (∀ c ∈ t, drop c = false) → t.dropWhile drop = t := by
    intro t ht
    cases t with
    | nil => rfl
    | cons c t => exact List.dropWhile_cons_of_neg (by simp [ht c List.mem_cons_self])
  have hreverse : ∀ c ∈ t.reverse, drop c = false := fun c hc => ht c (List.mem_reverse.mp hc)
  rw [stripEnds, hkept ht, hkept hreverse, List.reverse_reverse]

/-- A text without blanks and control characters is read as it stands. -/
theorem clean_trim_eq {t : Text} (ht : ∀ c ∈ t, IsInk c) : clean (trim t) = t := by
  have htrim : trim t = t := stripEnds_eq fun c hc => (ht c hc).1
  have hstrip : stripEnds (·.toNat ≤ 0x20) t = t := stripEnds_eq fun c hc =>
    decide_eq_false (Nat.not_le.mpr (ht c hc).2)
  rw [htrim, clean, hstrip, List.filter_eq_self]
  intro c hc
  have hlarge := (ht c hc).2
  simp only [Bool.not_eq_true', Bool.or_eq_false_iff, decide_eq_false_iff_not]
  refine ⟨⟨?_, ?_⟩, ?_⟩ <;> rintro rfl <;> exact absurd hlarge (by decide)

theorem scheme?_opening (scheme : Scheme) (rest : Text) :
    scheme? (opening scheme ++ rest) = some (scheme.name, '/' :: '/' :: rest) := by
  cases scheme <;> rfl

/-- The slashes after the scheme are passed over, and no more. -/
theorem dropSlashes_writeAt (hu : u.IsCanonical) {host : Text} (hhost : IsHostText host) :
    ('/' :: '/' :: u.writeAt host).dropWhile (isSlash true) = u.writeAt host := by
  have hfront := hu.endsAuthority_eq_false hhost
  have hne : u.credentials ++ (host ++ u.portText) ≠ [] :=
    List.append_ne_nil_of_right_ne_nil _
      (List.append_ne_nil_of_left_ne_nil hhost.ne_nil _)
  obtain ⟨c, more, hfirst⟩ := List.exists_cons_of_ne_nil hne
  have hc : isSlash true c = false := by
    have hends := hfront c (by rw [hfirst]; exact List.mem_cons_self)
    rw [endsAuthority, Bool.or_eq_false_iff, Bool.or_eq_false_iff] at hends
    exact hends.1.1
  have hslashes : ∀ d ∈ ['/', '/'], isSlash true d = true := forall_mem_of_all (by decide)
  unfold writeAt
  rw [hfirst]
  exact Toml.dropWhile_append_of_beginsNot hslashes (Toml.beginsNot_cons hc _)

/-- **An address is read from its writing on a host as what that host is read as.** -/
theorem read_writeAt (hu : u.IsCanonical) {host : Text} (hhost : IsHostText host)
    (hink : ∀ c ∈ host, IsInk c) :
    Url.read (opening u.scheme ++ u.writeAt host)
      = (Host.read host).bind fun host => .ok { u with host } := by
  have hall : ∀ c ∈ opening u.scheme ++ u.writeAt host, IsInk c := by
    intro c hc
    rcases List.mem_append.mp hc with hopening | hrest
    · exact isInk_of_isGraphic (graphic_opening u.scheme c hopening)
    · exact (hu.graphic_writeAt hrest).elim (hink c) isInk_of_isGraphic
  unfold Url.read
  rw [clean_trim_eq hall, scheme?_opening]
  dsimp only
  rw [dropSlashes_writeAt hu hhost, ← readWeb_writeAt hu hhost]
  cases u.scheme <;> rfl

/-- An address is read back from its writing. -/
theorem IsCanonical.read_write (hu : u.IsCanonical) (hshort : u.host.IsShort) :
    Url.read u.write = .ok u := by
  have hink : ∀ c ∈ u.host.write, IsInk c := fun c hc =>
    isInk_of_isGraphic (Host.graphic_of_mem_write hu.host hc).1
  rw [write_eq, read_writeAt hu (isHostText_write hu.host) hink, Host.read_write hu.host hshort]
  rfl

/-- The writing of an address is refused where its host is. -/
theorem IsCanonical.read_write_of_long (hu : u.IsCanonical) (hlong : ¬ u.host.IsShort) :
    Url.read u.write = .error .badDomain := by
  have hink : ∀ c ∈ u.host.write, IsInk c := fun c hc =>
    isInk_of_isGraphic (Host.graphic_of_mem_write hu.host hc).1
  rw [write_eq, read_writeAt hu (isHostText_write hu.host) hink,
    Host.read_write_of_long hu.host hlong]
  rfl

end OperatorNames.Url
