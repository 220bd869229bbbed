import OperatorNames.Proofs.Url.Domain.Canonical
import OperatorNames.Proofs.Url.Ipv4
import OperatorNames.Proofs.Url.Ipv6
import OperatorNames.Url.Host

/-!
# Hosts in writing

A host that has been read (`Host.IsCanonical`) is written in characters that can be seen, none of
which ends the host in an address, and is read back from its writing (`Host.read_write`).  Only a
domain name with a label too long to be decoded is not (`Host.IsShort`): it is refused as a bad
domain name.
-/

namespace OperatorNames.Host

open Text

/-- Whether a host is one that is read. -/
inductive IsCanonical : Host → Prop
  | domain {source name : Text} (hname : Domain.toAscii? source = some name) (hne : name ≠ [])
      (hnumber : Ipv4.endsInNumber name = false) : IsCanonical (.domain name)
  | ipv4 {address : Nat} (haddress : address < 0x100000000) : IsCanonical (.ipv4 address)
  | ipv6 {pieces : List Nat} (hpieces : Ipv6.IsAddress pieces) : IsCanonical (.ipv6 pieces)

theorem isCanonical_of_bracketed {inner : Text} {host : Host}
    (hread : bracketed inner = .ok host) : host.IsCanonical := by
  unfold bracketed at hread
  split at hread
  · split at hread
    · next pieces hpieces =>
        cases hread
        exact .ipv6 (Ipv6.isAddress_of_read? hpieces)
    · cases hread
  · cases hread

theorem isCanonical_of_named {t : Text} {host : Host} (hread : named t = .ok host) :
    host.IsCanonical := by
  unfold named at hread
  split at hread
  · cases hread
  · next name hname =>
      obtain ⟨source, -, hname⟩ := Option.bind_eq_some_iff.mp hname
      split at hread
      · cases hread
      · next hne =>
          rw [List.isEmpty_iff] at hne
          split at hread
          · split at hread
            · next address haddress =>
                cases hread
                exact .ipv4 (Ipv4.lt_of_read? haddress)
            · cases hread
          · next hnumber =>
              cases hread
              exact .domain hname hne (Bool.not_eq_true _ ▸ hnumber)

/-- What is read is canonical. -/
theorem isCanonical_of_read {t : Text} {host : Host} (hread : Host.read t = .ok host) :
    host.IsCanonical := by
  unfold Host.read at hread
  split at hread
  · exact isCanonical_of_bracketed hread
  · exact isCanonical_of_named hread

/-! ## Characters -/

/-- The signs that end a host, or what stands before it, in an address. -/
def ends : Text :=
  ['/', '\\', '?', '#', '@']

theorem not_mem_of_toAscii? {source name : Text} (hname : Domain.toAscii? source = some name)
    {c : Char} (hc : Domain.isForbidden c = true) : c ∉ name := by
  intro hmem
  rw [(Domain.graphic_of_toAscii? hname c hmem).2] at hc
  cases hc

theorem isKept_of_mem_ipv4 {address : Nat} {c : Char} (hc : c ∈ Ipv4.write address) :
    Domain.IsKept c ∧ Domain.isForbidden c = false := by
  rcases Ipv4.mem_write hc with rfl | ⟨n, hdigit⟩
  · decide
  · exact forall_mem_decimal (P := fun c => Domain.IsKept c ∧ Domain.isForbidden c = false)
      (by decide) c hdigit

theorem not_mem_ipv4 {address : Nat} {c : Char} (hc : Domain.isForbidden c = true) :
    c ∉ Ipv4.write address := by
  intro hmem
  rw [(isKept_of_mem_ipv4 hmem).2] at hc
  cases hc

/-- An IPv4 address is, as a name, looked up as it stands. -/
theorem toAscii?_ipv4 (address : Nat) :
    Domain.toAscii? (Ipv4.write address) = some (Ipv4.write address) := by
  refine Domain.toAscii?_of_plain (fun c => isKept_of_mem_ipv4) fun label hlabel => ?_
  rw [Ipv4.cutAt_write] at hlabel
  obtain ⟨n, -, rfl⟩ := List.mem_map.mp hlabel
  cases hdrop : dropStart? Domain.encodedMark (decimal n) with
  | none => rfl
  | some encoded =>
      have hmark : 'x' ∈ decimal n := by
        rw [dropStart?_eq_some hdrop]
        exact List.mem_cons_self
      exact absurd rfl (forall_mem_decimal (P := (· ≠ 'x')) (by decide) 'x' hmark)

/-- What stands in the writing of a host, its brackets apart. -/
theorem graphic_of_mem_write {host : Host} (hhost : host.IsCanonical) {c : Char}
    (hc : c ∈ host.write) : IsGraphic c ∧ c ∉ ends := by
  cases hhost with
  | @domain source name hname hne hnumber =>
      refine ⟨(Domain.graphic_of_toAscii? hname c hc).1, fun hend => ?_⟩
      have hforbidden : ∀ c ∈ ends, Domain.isForbidden c = true := forall_mem_of_all (by decide)
      exact not_mem_of_toAscii? hname (hforbidden c hend) hc
  | @ipv4 address haddress =>
      rcases Ipv4.mem_write hc with rfl | ⟨n, hdigit⟩
      · decide
      · exact forall_mem_decimal (P := fun c => IsGraphic c ∧ c ∉ ends) (by decide) c hdigit
  | @ipv6 pieces hpieces =>
      rcases List.mem_append.mp hc with hbefore | hclose
      · rcases List.mem_cons.mp hbefore with rfl | hmem
        · decide
        · rcases Ipv6.mem_write hmem with rfl | ⟨n, hdigit⟩
          · decide
          · exact forall_mem_hex (P := fun c => IsGraphic c ∧ c ∉ ends) (by decide) c hdigit
      · rw [List.mem_singleton.mp hclose]
        decide

theorem write_ne_nil {host : Host} (hhost : host.IsCanonical) : host.write ≠ [] := by
  cases hhost with
  | domain hname hne hnumber => exact hne
  | @ipv4 address haddress =>
      intro hnil
      have hparts := congrArg List.length (Ipv4.cutAt_write address)
      rw [show Ipv4.write address = [] from hnil] at hparts
      exact absurd (show 1 = 4 from hparts) (by decide)
  | ipv6 hpieces => exact List.cons_ne_nil _ _

/-! ## Reading what has been written -/

/-- Whether no label of a host has an encoded form that is too long to be decoded. -/
def IsShort : Host → Prop
  | .domain name => Domain.IsShort name
  | _ => True

/-- A name without octets in digits is looked up as it stands. -/
theorem lookup_eq {name : Text} (hpercent : '%' ∉ name) :
    (Utf8.decode (Percent.decodeOctets (Utf8.encode name))).bind Domain.toAscii?
      = Domain.toAscii? name := by
  rw [Percent.decode_decodeOctets hpercent, Option.bind_some]

theorem read_eq_named {t : Text} (ht : '[' ∉ t) : Host.read t = named t := by
  unfold Host.read
  split
  · exact absurd List.mem_cons_self ht
  · rfl

/-- A host is read back from its writing. -/
theorem read_write {host : Host} (hhost : host.IsCanonical) (hshort : host.IsShort) :
    Host.read host.write = .ok host := by
  cases hhost with
  | @domain source name hname hne hnumber =>
      change Host.read name = _
      rw [read_eq_named (not_mem_of_toAscii? hname (by decide)), named,
        lookup_eq (not_mem_of_toAscii? hname (by decide)), Domain.toAscii?_lookup hname hshort]
      dsimp only
      rw [List.isEmpty_eq_false_iff.mpr hne, hnumber]
      rfl
  | @ipv4 address haddress =>
      have hne : (Ipv4.write address).isEmpty = false :=
        List.isEmpty_eq_false_iff.mpr (write_ne_nil (.ipv4 haddress))
      change Host.read (Ipv4.write address) = _
      -- it is read as a name first, and found to end in a number
      rw [read_eq_named (not_mem_ipv4 (by decide)), named, lookup_eq (not_mem_ipv4 (by decide)),
        toAscii?_ipv4]
      dsimp only
      rw [hne, Ipv4.endsInNumber_write, Ipv4.read?_write haddress]
      rfl
  | @ipv6 pieces hpieces =>
      change bracketed (Ipv6.write pieces ++ [']']) = _
      rw [bracketed, List.getLast?_concat, if_pos rfl, List.dropLast_concat,
        Ipv6.read?_write hpieces]

/-- A host with a label too long to be decoded is refused. -/
theorem read_write_of_long {host : Host} (hhost : host.IsCanonical) (hlong : ¬ host.IsShort) :
    Host.read host.write = .error .badDomain := by
  cases hhost with
  | @domain source name hname hne hnumber =>
      change Host.read name = _
      rw [read_eq_named (not_mem_of_toAscii? hname (by decide)), named,
        lookup_eq (not_mem_of_toAscii? hname (by decide)),
        Domain.toAscii?_lookup_of_long hname hlong]
  | ipv4 haddress => exact absurd trivial hlong
  | ipv6 hpieces => exact absurd trivial hlong

end OperatorNames.Host
