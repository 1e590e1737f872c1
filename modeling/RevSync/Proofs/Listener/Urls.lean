import RevSync.Listener.Bind
import RevSync.Proofs.Host.Address

/-! # Advertised listener URLs

A listener bound to one address advertises that address and nothing else, whatever it is: the
interface filters do not apply to it (`reachable_specific`). A listener bound to a wildcard
advertises the IPv4 loopback address first, then each usable interface address that is not a
loopback address, once, and IPv6 ones only for an IPv6 wildcard (`Selection`, kept by every
candidate the selection looks at). Each URL carries the listener's port, TLS flag and database,
and since an address's text names it, the URLs' hosts are distinct (`advertised_urls`).
-/

namespace RevSync

namespace Listener

/-- What the selection of a wildcard's addresses keeps: the loopback address first, then distinct
usable candidates that are not loopback addresses, and IPv4 ones only for an IPv4 wildcard. -/
def Selection (bound : IpAddr) (candidates acc : List IpAddr) : Prop :=
  ∃ rest, acc = IpAddr.localhost :: rest ∧ acc.Nodup ∧
    ∀ ip ∈ rest, ip ∈ candidates ∧ usable ip = true ∧ ip.isLoopback = false ∧
      (bound.isV4 = true → ip.isV4 = true)

/-- One candidate keeps the selection's shape. -/
theorem Selection.step {bound ip : IpAddr} {candidates acc : List IpAddr}
    (h : Selection bound candidates acc) (hip : ip ∈ candidates) :
    Selection bound candidates
      (if ip.isLoopback || !usable ip || (bound.isV4 && !ip.isV4) || acc.contains ip then acc
        else acc ++ [ip]) := by
  split
  · exact h
  · next hkept =>
    obtain ⟨rest, rfl, hnodup, hrest⟩ := h
    simp only [Bool.or_eq_true, Bool.not_eq_true', Bool.and_eq_true, not_or, not_and,
      Bool.not_eq_false, List.contains_iff_mem] at hkept
    obtain ⟨⟨⟨hloop, husable⟩, hfamily⟩, hnew⟩ := hkept
    refine ⟨rest ++ [ip], rfl, ?_, fun x hx => ?_⟩
    · exact List.nodup_append.2 ⟨hnodup, List.nodup_singleton ip,
        fun a ha b hb hab => hnew (List.mem_singleton.1 hb ▸ hab ▸ ha)⟩
    · rcases List.mem_append.1 hx with hx | hx
      · exact hrest x hx
      · obtain rfl := List.mem_singleton.1 hx
        exact ⟨hip, by simpa using husable, by simpa using hloop, fun hv => by simpa using hfamily hv⟩

/-- The selection over candidates from a list keeps its shape. -/
theorem Selection.foldl {bound : IpAddr} {candidates : List IpAddr} (l : List IpAddr)
    (hl : ∀ ip ∈ l, ip ∈ candidates) :
    ∀ acc, Selection bound candidates acc → Selection bound candidates
      (l.foldl (fun acc ip =>
        if ip.isLoopback || !usable ip || (bound.isV4 && !ip.isV4) || acc.contains ip then acc
        else acc ++ [ip]) acc) := by
  induction l with
  | nil => exact fun acc h => h
  | cons ip l ih =>
    intro acc h
    exact ih (fun x hx => hl x (List.mem_cons_of_mem ip hx)) _ (h.step (hl ip List.mem_cons_self))

theorem selectAddresses_selection (bound : IpAddr) (candidates : List IpAddr) :
    Selection bound candidates (selectAddresses bound candidates) :=
  Selection.foldl candidates (fun _ h => h) _ ⟨[], rfl, List.nodup_singleton _, fun _ h => by cases h⟩

/-- A listener bound to one address is reached at that address only. -/
theorem reachable_specific (interfaces : List (String × IpAddr)) {bound : IpAddr}
    (h : bound.isUnspecified = false) : reachableAddresses interfaces bound = [bound] := by
  simp [reachableAddresses, h]

theorem reachable_wildcard (interfaces : List (String × IpAddr)) {bound : IpAddr}
    (h : bound.isUnspecified = true) :
    reachableAddresses interfaces bound = selectAddresses bound (interfaces.map (·.2)) := by
  simp [reachableAddresses, h]

theorem localhost_valid : IpAddr.localhost.Valid := by
  decide

/-- Every address a listener is reached at is valid, when its own and its interfaces' are. -/
theorem reachable_valid {interfaces : List (String × IpAddr)} {bound : IpAddr}
    (hbound : bound.Valid) (hinterfaces : ∀ i ∈ interfaces, i.2.Valid) :
    ∀ ip ∈ reachableAddresses interfaces bound, ip.Valid := by
  cases hb : bound.isUnspecified
  · rw [reachable_specific interfaces hb]
    intro ip hip
    rw [List.mem_singleton.1 hip]
    exact hbound
  · rw [reachable_wildcard interfaces hb]
    obtain ⟨rest, heq, -, hrest⟩ := selectAddresses_selection bound (interfaces.map (·.2))
    rw [heq]
    intro ip hip
    rcases List.mem_cons.1 hip with rfl | hip
    · exact localhost_valid
    · obtain ⟨i, hi, rfl⟩ := List.mem_map.1 (hrest ip hip).1
      exact hinterfaces i hi

/-- A listener is reached at distinct addresses. -/
theorem reachable_nodup (interfaces : List (String × IpAddr)) (bound : IpAddr) :
    (reachableAddresses interfaces bound).Nodup := by
  cases hb : bound.isUnspecified
  · rw [reachable_specific interfaces hb]
    exact List.nodup_singleton bound
  · rw [reachable_wildcard interfaces hb]
    obtain ⟨-, -, hnodup, -⟩ := selectAddresses_selection bound (interfaces.map (·.2))
    exact hnodup

/-- A listener's advertised URLs: their hosts are distinct, and each carries the listener's port,
TLS flag and database. A listener bound to one address advertises exactly that address, which is
never the unspecified one; a listener bound to a wildcard advertises the IPv4 loopback address
first, then only usable addresses (neither unspecified nor link-local), and IPv6 ones only when
the wildcard is IPv6. -/
theorem advertised_urls (interfaces : List (String × IpAddr)) (bound : IpAddr) (port : UInt16)
    (tls : Bool) (database : String) (hbound : bound.Valid)
    (hinterfaces : ∀ i ∈ interfaces, i.2.Valid) :
    ((urls interfaces bound port tls database).map (·.host)).Nodup ∧
      (∀ u ∈ urls interfaces bound port tls database,
        u.port = port ∧ u.tls = tls ∧ u.database = database) ∧
      (bound.isUnspecified = false →
        urls interfaces bound port tls database = [{ tls, host := bound.toText, port, database }]) ∧
      (bound.isUnspecified = true →
        (urls interfaces bound port tls database).head?.map (·.host) = some "127.0.0.1" ∧
        ∀ u ∈ urls interfaces bound port tls database, ∃ ip, u.host = ip.toText ∧
          usable ip = true ∧ (bound.isV4 = true → ip.isV4 = true)) := by
  have hhosts : (urls interfaces bound port tls database).map (·.host) =
      (reachableAddresses interfaces bound).map IpAddr.toText := by
    simp [urls, Function.comp_def]
  refine ⟨?_, fun u hu => ?_, fun hb => ?_, fun hb => ?_⟩
  · -- distinct addresses have distinct texts
    rw [hhosts]
    exact (reachable_nodup interfaces bound).map_on fun a ha b hb hab =>
      IpAddr.toText_injective (reachable_valid hbound hinterfaces a ha)
        (reachable_valid hbound hinterfaces b hb) hab
  · obtain ⟨ip, -, rfl⟩ := List.mem_map.1 hu
    exact ⟨rfl, rfl, rfl⟩
  · simp [urls, reachable_specific interfaces hb]
  · obtain ⟨rest, heq, -, hrest⟩ := selectAddresses_selection bound (interfaces.map (·.2))
    have hreach : reachableAddresses interfaces bound = IpAddr.localhost :: rest := by
      rw [reachable_wildcard interfaces hb, heq]
    have hloopback : IpAddr.localhost.toText = "127.0.0.1" := by decide
    refine ⟨by simp [urls, hreach, hloopback], fun u hu => ?_⟩
    simp only [urls, hreach, List.mem_map, List.mem_cons] at hu
    obtain ⟨ip, hip, rfl⟩ := hu
    rcases hip with rfl | hip
    · exact ⟨IpAddr.localhost, rfl, by decide, fun _ => rfl⟩
    · obtain ⟨-, husable, -, hfamily⟩ := hrest ip hip
      exact ⟨ip, rfl, husable, hfamily⟩

/-- Interface addresses of a host with loopback, private, link-local and global addresses, one of
them on two interfaces. -/
def sampleInterfaces : List (String × IpAddr) :=
  [("lo", .v4 [127, 0, 0, 1]), ("lo", .v6 [0, 0, 0, 0, 0, 0, 0, 1]),
    ("eth0", .v4 [192, 168, 1, 10]), ("eth1", .v4 [10, 0, 0, 7]), ("eth2", .v4 [169, 254, 9, 9]),
    ("eth0", .v6 [0xfe80, 0, 0, 0, 0, 0, 0, 1]), ("eth0", .v6 [0x2001, 0xdb8, 0, 0, 0, 0, 0, 5]),
    ("eth3", .v4 [192, 168, 1, 10])]

/-- On that host a dual-stack wildcard listener advertises distinct hosts, the loopback one
first. -/
theorem dual_stack_urls_distinct :
    ((urls sampleInterfaces (.v6 [0, 0, 0, 0, 0, 0, 0, 0]) 4984 false "db").map (·.host)).Nodup ∧
      (urls sampleInterfaces (.v6 [0, 0, 0, 0, 0, 0, 0, 0]) 4984 false "db").head?.map (·.host) =
        some "127.0.0.1" :=
  have h := advertised_urls sampleInterfaces (.v6 [0, 0, 0, 0, 0, 0, 0, 0]) 4984 false "db"
    (by decide) (by decide)
  ⟨h.1, (h.2.2.2 rfl).1⟩

/-- A listener bound to a link-local address advertises it. -/
theorem link_local_bind_advertised :
    urls [] (.v4 [169, 254, 1, 1]) 4984 false "srv" =
        [{ tls := false, host := "169.254.1.1", port := 4984, database := "srv" }] ∧
      usable (.v4 [169, 254, 1, 1]) = false := by
  decide

end Listener

end RevSync
