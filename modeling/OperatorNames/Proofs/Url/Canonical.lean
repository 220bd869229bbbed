import OperatorNames.Proofs.Url.Host
import OperatorNames.Url.Read

/-!
# What addresses that are read are made of

An address is cut into parts, and the parts are made into an address.  In whatever way the parts
were written, those of the result are canonical (`Url.isCanonical_of_read`): encoded, with steps
that lead onward, and with a port only where it is not that of the scheme.
-/

namespace OperatorNames.Url

open Text

/-! ## Parts -/

/-- What an address is cut into after its scheme and slashes. -/
structure Parts where
  /-- What stands before the last `@`. -/
  user : Option Text
  /-- The host. -/
  host : Text
  /-- The port and its colon. -/
  port : Text
  /-- The path. -/
  path : Text
  /-- What follows the question mark. -/
  query : Option Text
  /-- What follows the number sign. -/
  fragment : Option Text

/-- What a question mark announces, up to a number sign. -/
def queryOf? : Text → Option Text
  | '?' :: query => some (query.takeWhile (· ≠ '#'))
  | _ => none

/-- What the first number sign announces. -/
def fragmentOf? (t : Text) : Option Text :=
  match t.dropWhile (· ≠ '#') with
  | _ :: fragment => some fragment
  | [] => none

/-- The parts of an address. -/
def partsOf (t : Text) : Parts :=
  let (user, place) := cutCredentials (t.takeWhile fun c => !endsAuthority true c)
  let (host, port) := cutHost false place
  let rest := t.dropWhile fun c => !endsAuthority true c
  let afterPath := rest.dropWhile fun c => !(c = '?' || c = '#')
  { user, host, port
    path := rest.takeWhile fun c => !(c = '?' || c = '#')
    query := queryOf? afterPath
    fragment := fragmentOf? afterPath }

/-- The address with given parts on a host and a port. -/
def Parts.on (p : Parts) (scheme : Scheme) (host : Host) (port : Option Nat) : Url :=
  let credentials := readCredentials (p.user.getD [])
  { scheme, host
    username := credentials.1
    password := credentials.2
    port := if port = some scheme.port then none else port
    path := readPath p.path
    query := p.query.map (Percent.encode Percent.inQuery)
    fragment := p.fragment.map (Percent.encode Percent.inFragment) }

theorem readWeb_eq (scheme : Scheme) (t : Text) :
    readWeb scheme t =
      if (partsOf t).host.isEmpty then .error .emptyHost
      else (Host.read (partsOf t).host).bind fun host =>
        (readPort (partsOf t).port).bind fun port => .ok ((partsOf t).on scheme host port) := by
  unfold readWeb
  rfl

/-! ## Paths -/

/-- Whether a step of a path leads onward. -/
structure IsStep (step : Text) : Prop where
  /-- Its characters are encoded. -/
  encoded : Percent.Encoded Percent.inPath step
  /-- It is one step. -/
  slash : ∀ c ∈ step, isSlash true c = false
  /-- It does not stay. -/
  not_here : isHere step = false
  /-- It does not lead back. -/
  not_back : isBack step = false

theorem isStep_nil : IsStep [] where
  encoded := List.forall_mem_nil _
  slash := List.forall_mem_nil _
  not_here := by decide
  not_back := by decide

theorem goBack_subset (done : List Text) : goBack done ⊆ done := by
  cases done with
  | nil => exact List.Subset.refl _
  | cons step before =>
      rw [goBack]
      split
      · exact List.Subset.refl _
      · exact List.subset_cons_self _ _

theorem isStep_of_mem_walk {done steps : List Text} (hdone : ∀ step ∈ done, IsStep step)
    (hsteps : ∀ step ∈ steps, Percent.Encoded Percent.inPath step
      ∧ ∀ c ∈ step, isSlash true c = false) :
    ∀ step ∈ walk done steps, IsStep step := by
  have hback : ∀ {done : List Text}, (∀ step ∈ done, IsStep step) →
      ∀ step ∈ goBack done, IsStep step := fun h step hstep => h step (goBack_subset _ hstep)
  induction steps generalizing done with
  | nil => exact fun step hstep => hdone step (List.mem_reverse.mp hstep)
  | cons first more ih =>
      obtain ⟨hfirst, hmore⟩ := List.forall_mem_cons.mp hsteps
      -- a step that leads onward is one of the result
      have honward : isBack first = false → isHere first = false →
          ∀ step ∈ first :: done, IsStep step := fun hnback hnhere =>
        List.forall_mem_cons.mpr ⟨⟨hfirst.1, hfirst.2, hnhere, hnback⟩, hdone⟩
      cases more with
      | nil =>
          intro step hstep
          rw [walk] at hstep
          split at hstep
          · exact List.forall_mem_cons.mpr ⟨isStep_nil, hback hdone⟩ step
              (List.mem_reverse.mp hstep)
          · next hnback =>
              split at hstep
              · exact List.forall_mem_cons.mpr ⟨isStep_nil, hdone⟩ step (List.mem_reverse.mp hstep)
              · next hnhere =>
                  exact honward (Bool.not_eq_true _ ▸ hnback) (Bool.not_eq_true _ ▸ hnhere) step
                    (List.mem_reverse.mp hstep)
      | cons second more =>
          rw [walk]
          · refine ih ?_ hmore
            split
            · exact hback hdone
            · next hnback =>
                split
                · exact hdone
                · next hnhere =>
                    exact honward (Bool.not_eq_true _ ▸ hnback) (Bool.not_eq_true _ ▸ hnhere)
          · exact List.cons_ne_nil _ _

theorem walk_ne_nil (done : List Text) {steps : List Text} (hsteps : steps ≠ []) :
    walk done steps ≠ [] := by
  induction steps generalizing done with
  | nil => exact absurd rfl hsteps
  | cons first more ih =>
      cases more with
      | nil =>
          rw [walk]
          split
          · exact List.reverse_ne_nil_iff.mpr (List.cons_ne_nil _ _)
          · split <;> exact List.reverse_ne_nil_iff.mpr (List.cons_ne_nil _ _)
      | cons second more =>
          rw [walk]
          · exact ih _ (List.cons_ne_nil _ _)
          · exact List.cons_ne_nil _ _

/-- The steps of a path without its first slash. -/
def stepsOf (t : Text) : List Text :=
  cutAt (isSlash true) (match t with
    | c :: rest => if isSlash true c then rest else t
    | [] => [])

theorem readPath_eq (t : Text) :
    readPath t = walk [] ((stepsOf t).map (Percent.encode Percent.inPath)) :=
  rfl

theorem isStep_of_mem_readPath (t : Text) : ∀ step ∈ readPath t, IsStep step := by
  rw [readPath_eq]
  refine isStep_of_mem_walk (List.forall_mem_nil _) fun step hstep => ?_
  obtain ⟨piece, hpiece, rfl⟩ := List.mem_map.mp hstep
  refine ⟨Percent.isEscapeSet_inPath.encoded_encode piece, fun c hc => ?_⟩
  rcases Percent.mem_encode hc with ⟨hmem, -⟩ | rfl | ⟨n, hn, rfl⟩
  · exact (mem_of_mem_cutAt hpiece hmem).2
  · decide
  · have hdigits : ∀ n < 16, isSlash true (upperHexDigit n) = false := by decide
    exact hdigits n hn

theorem readPath_ne_nil (t : Text) : readPath t ≠ [] := by
  rw [readPath_eq]
  exact walk_ne_nil _ fun h => cutAt_ne_nil _ _ (List.map_eq_nil_iff.mp h)

/-! ## Addresses -/

/-- Whether an address is one that is read. -/
structure IsCanonical (u : Url) : Prop where
  /-- The user's name is encoded. -/
  username : Percent.Encoded Percent.inCredentials u.username
  /-- The password is encoded and not empty. -/
  password : ∀ password, u.password = some password →
    Percent.Encoded Percent.inCredentials password ∧ password ≠ []
  /-- The host is one that is read. -/
  host : u.host.IsCanonical
  /-- The port is a port, and not that of the scheme. -/
  port : ∀ port, u.port = some port → port < 0x10000 ∧ port ≠ u.scheme.port
  /-- There is a step at least. -/
  path_ne_nil : u.path ≠ []
  /-- Each step leads onward. -/
  step : ∀ step ∈ u.path, IsStep step
  /-- The query is encoded. -/
  query : ∀ query, u.query = some query → Percent.Encoded Percent.inQuery query
  /-- The fragment is encoded. -/
  fragment : ∀ fragment, u.fragment = some fragment → Percent.Encoded Percent.inFragment fragment

theorem encoded_readCredentials (t : Text) :
    Percent.Encoded Percent.inCredentials (readCredentials t).1 ∧
      ∀ password, (readCredentials t).2 = some password →
        Percent.Encoded Percent.inCredentials password ∧ password ≠ [] := by
  have hencoded := Percent.isEscapeSet_inCredentials.encoded_encode
  unfold readCredentials
  dsimp only
  split
  · exact ⟨hencoded _, nofun⟩
  · exact ⟨hencoded _, nofun⟩
  · next colon password hne hpassword =>
      refine ⟨hencoded _, fun found hfound => ?_⟩
      rw [← Option.some.inj hfound]
      exact ⟨hencoded _, Percent.encode_ne_nil hne⟩

theorem lt_of_readPort {t : Text} {port : Nat} (hport : readPort t = .ok (some port)) :
    port < 0x10000 := by
  unfold readPort at hport
  split at hport
  · cases hport
  · split at hport
    · cases hport
    · split at hport
      · split at hport
        · next hlt =>
            cases hport
            exact hlt
        · cases hport
      · cases hport

/-- What is read is canonical. -/
theorem isCanonical_of_readWeb {scheme : Scheme} {t : Text} {u : Url}
    (hread : readWeb scheme t = .ok u) : u.IsCanonical ∧ u.scheme = scheme := by
  rw [readWeb_eq] at hread
  split at hread
  · cases hread
  · obtain ⟨host, hhost, hread⟩ := exists_of_bind_eq_ok hread
    obtain ⟨port, hport, hread⟩ := exists_of_bind_eq_ok hread
    cases hread
    have hcredentials := encoded_readCredentials ((partsOf t).user.getD [])
    refine ⟨?_, rfl⟩
    exact
      { username := hcredentials.1
        password := hcredentials.2
        host := Host.isCanonical_of_read hhost
        port := fun found hfound => by
          unfold Parts.on at hfound ⊢
          dsimp only at hfound ⊢
          split at hfound
          · cases hfound
          · next hother =>
              subst hfound
              exact ⟨lt_of_readPort hport, fun h => hother (congrArg some h)⟩
        path_ne_nil := readPath_ne_nil _
        step := isStep_of_mem_readPath _
        query := fun found hfound => by
          obtain ⟨query, -, rfl⟩ := Option.map_eq_some_iff.mp hfound
          exact Percent.isEscapeSet_inQuery.encoded_encode query
        fragment := fun found hfound => by
          obtain ⟨fragment, -, rfl⟩ := Option.map_eq_some_iff.mp hfound
          exact Percent.isEscapeSet_inFragment.encoded_encode fragment }

/-- What is read is canonical. -/
theorem isCanonical_of_read {raw : Text} {u : Url} (hread : Url.read raw = .ok u) :
    u.IsCanonical := by
  unfold Url.read at hread
  split at hread
  · cases hread
  · split at hread
    · exact (isCanonical_of_readWeb hread).1
    · split at hread
      · exact (isCanonical_of_readWeb hread).1
      · cases hread

end OperatorNames.Url
