import VolumeDriver.Endpoint
import VolumeDriver.Proofs.Net.Printing
import VolumeDriver.Proofs.Text

/-!
# Endpoints as texts

An endpoint is read from the texts that are written for it: a path behind `unix://`, or behind `unix:` alone if two slashes do not begin
it, and an address behind `tcp://` (`Endpoint.parseChars_eq_some_iff`). The text that it is printed as is one of them, so it is read back
from there, with its path as it is (`Endpoint.parse_inverts_render`).
-/

namespace VolumeDriver

namespace Net

/-- The written form of an address with a port. A scope is told unless it is zero. -/
inductive SocketAddress.Printed : SocketAddress → String → Prop
  | v4 (ip : Ipv4) (port : UInt16) : Printed (.v4 ip port) (ip.render ++ ":" ++ toString port)
  | v6 {ip : Ipv6} {text : String} (address : ip.Printed text) (port : UInt16) :
    Printed (.v6 ip 0 port) ("[" ++ text ++ "]:" ++ toString port)
  | zoned {ip : Ipv6} {text : String} (address : ip.Printed text) {scope : UInt32} (set : scope ≠ 0) (port : UInt16) :
    Printed (.v6 ip scope port) ("[" ++ text ++ "%" ++ toString scope ++ "]:" ++ toString port)

/-- An address with a port is written so, and in no other form. -/
theorem SocketAddress.printed_iff {a : SocketAddress} {text : String} : a.Printed text ↔ text = a.render := by
  have hplain (ip : Ipv6) (port : UInt16) : render (.v6 ip 0 port) = "[" ++ ip.render ++ "]:" ++ toString port := by
    rw [render, if_pos rfl, String.append_empty]
  have hzoned (ip : Ipv6) {scope : UInt32} (hscope : scope ≠ 0) (port : UInt16) :
      render (.v6 ip scope port) = "[" ++ ip.render ++ "%" ++ toString scope ++ "]:" ++ toString port := by
    rw [render, if_neg hscope, ← String.append_assoc]
  constructor
  · intro h
    cases h with
    | v4 ip port => rfl
    | v6 address port => rw [Ipv6.printed_iff.1 address, hplain]
    | zoned address set port => rw [Ipv6.printed_iff.1 address, hzoned _ set]
  · rintro rfl
    cases a with
    | v4 ip port => exact .v4 ip port
    | v6 ip scope port =>
      have haddress : ip.Printed ip.render := Ipv6.printed_iff.2 rfl
      by_cases hscope : scope = 0
      · subst hscope
        rw [hplain]
        exact .v6 haddress port
      · rw [hzoned ip hscope]
        exact .zoned haddress hscope port

end Net

namespace Endpoint

variable {cs rest : List Char} {s path : String} {e : Endpoint}

/-- The texts of an endpoint. The path of a socket is all that is left behind the scheme. -/
inductive Written : Endpoint → List Char → Prop
  | unix {path : String} (absolute : Path.isAbsolute ⟨path⟩ = true) : Written (.unix path) ("unix://".toList ++ path.toList)
  | unixShort {path : String} (absolute : Path.isAbsolute ⟨path⟩ = true) (single : ¬ ['/', '/'] <+: path.toList) :
    Written (.unix path) ("unix:".toList ++ path.toList)
  | tcp {address : Net.SocketAddress} {text : List Char} (written : address.Written text) :
    Written (.tcp address) ("tcp://".toList ++ text)

/-- Two slashes behind the scheme are skipped. -/
theorem unixPath_slashes (rest : List Char) : unixPath ('/' :: '/' :: rest) = rest := by
  have hslashes : Text.afterChars ['/', '/'] ('/' :: '/' :: rest) = some rest := Text.afterChars_eq_some_iff.2 rfl
  rw [unixPath, hslashes, Option.getD_some]

/-- Otherwise the path is all that stands behind the scheme. -/
theorem unixPath_single (h : ¬ ['/', '/'] <+: rest) : unixPath rest = rest := by
  rw [unixPath]
  cases hrest : Text.afterChars ['/', '/'] rest with
  | none => rfl
  | some path => exact absurd ⟨path, (Text.afterChars_eq_some_iff.1 hrest).symm⟩ h

/-- The path of a socket must be absolute. -/
theorem parseChars_unix : parseChars ("unix:".toList ++ rest) = some e ↔
    ∃ path, e = .unix path ∧ path.toList = unixPath rest ∧ Path.isAbsolute ⟨path⟩ = true := by
  have hscheme : Text.afterChars ['u', 'n', 'i', 'x', ':'] ("unix:".toList ++ rest) = some rest := Text.afterChars_eq_some_iff.2 rfl
  simp only [parseChars, hscheme, Option.ite_none_right_eq_some, Option.some.injEq]
  constructor
  · rintro ⟨habsolute, rfl⟩
    exact ⟨_, rfl, String.toList_ofList, by simpa [Path.isAbsolute, Path.chars] using habsolute⟩
  · rintro ⟨path, rfl, hpath, habsolute⟩
    rw [← hpath, String.ofList_toList]
    exact ⟨of_decide_eq_true habsolute, rfl⟩

/-- Behind the other scheme there is the address of a socket. -/
theorem parseChars_tcp : parseChars ("tcp://".toList ++ rest) = some e ↔ ∃ a, e = .tcp a ∧ a.Written rest := by
  have hscheme : Text.afterChars ['t', 'c', 'p', ':', '/', '/'] ("tcp://".toList ++ rest) = some rest :=
    Text.afterChars_eq_some_iff.2 rfl
  have hother : Text.afterChars ['u', 'n', 'i', 'x', ':'] ("tcp://".toList ++ rest) = none := rfl
  simp only [parseChars, hscheme, hother, Option.map_eq_map, Option.map_eq_some_iff, Net.SocketAddress.parse_eq_some_iff]
  exact ⟨fun ⟨a, ha, he⟩ => ⟨a, he.symm, ha⟩, fun ⟨a, he, ha⟩ => ⟨a, ha, he.symm⟩⟩

/-- An endpoint is read from its texts, and from nothing else. -/
theorem parseChars_eq_some_iff : parseChars cs = some e ↔ e.Written cs := by
  constructor
  · intro h
    cases hunix : Text.afterChars ['u', 'n', 'i', 'x', ':'] cs with
    | some rest =>
      obtain rfl : cs = "unix:".toList ++ rest := Text.afterChars_eq_some_iff.1 hunix
      obtain ⟨path, rfl, hpath, habsolute⟩ := parseChars_unix.1 h
      by_cases hslashes : ['/', '/'] <+: rest
      · obtain ⟨behind, rfl⟩ := hslashes
        obtain rfl : path.toList = behind := hpath.trans (unixPath_slashes behind)
        exact .unix habsolute
      · obtain rfl : path.toList = rest := hpath.trans (unixPath_single hslashes)
        exact .unixShort habsolute hslashes
    | none =>
      cases htcp : Text.afterChars ['t', 'c', 'p', ':', '/', '/'] cs with
      | some rest =>
        obtain rfl : cs = "tcp://".toList ++ rest := Text.afterChars_eq_some_iff.1 htcp
        obtain ⟨a, rfl, ha⟩ := parseChars_tcp.1 h
        exact .tcp ha
      | none => simp [parseChars, hunix, htcp] at h
  · intro h
    cases h with
    | @unix path habsolute => exact parseChars_unix.2 ⟨path, rfl, (unixPath_slashes path.toList).symm, habsolute⟩
    | @unixShort path habsolute hsingle => exact parseChars_unix.2 ⟨path, rfl, (unixPath_single hsingle).symm, habsolute⟩
    | tcp hwritten => exact parseChars_tcp.2 ⟨_, rfl, hwritten⟩

/-- The path of a socket that is read is absolute. -/
theorem isAbsolute_of_parse (h : parse s = some (.unix path)) : Path.isAbsolute ⟨path⟩ = true := by
  have hwritten := parseChars_eq_some_iff.1 h
  generalize s.toList = cs at hwritten
  cases hwritten with
  | unix habsolute => exact habsolute
  | unixShort habsolute _ => exact habsolute

/-- An endpoint is read from the text it is printed as, if it is one that can be read. -/
theorem parse_render (h : parse s = some e) : parse e.render = some e := by
  refine parseChars_eq_some_iff.2 ?_
  cases e with
  | unix path =>
    rw [render, String.toList_append]
    exact .unix (isAbsolute_of_parse h)
  | tcp address =>
    rw [render, String.toList_append]
    exact .tcp (Net.SocketAddress.written_render address)

/-- An absolute path that two slashes do not begin is read behind the two slashes of the scheme, and without them. -/
theorem parse_path (habsolute : Path.isAbsolute ⟨path⟩ = true) (hsingle : ¬ ['/', '/'] <+: path.toList) :
    parse ("unix:" ++ path) = some (.unix path) ∧ parse ("unix://" ++ path) = some (.unix path) := by
  rw [parse, parse, String.toList_append, String.toList_append]
  exact ⟨parseChars_eq_some_iff.2 (.unixShort habsolute hsingle), parseChars_eq_some_iff.2 (.unix habsolute)⟩

/-- What is read is printed as a text that it is read from again, and printed the same then. The path of a socket is absolute, and is read
behind either spelling of the scheme. A text behind `tcp://` is read as the address that it is written for, and an address is printed in
its written form. -/
theorem parse_inverts_render :
    (∀ s e, parse s = some e → parse e.render = some e ∧ (parse e.render).map render = some e.render) ∧
    (∀ s path, parse s = some (.unix path) → Path.isAbsolute ⟨path⟩ = true) ∧
    (∀ path : String, Path.isAbsolute ⟨path⟩ = true → ¬ ['/', '/'] <+: path.toList →
      parse ("unix:" ++ path) = some (.unix path) ∧ parse ("unix://" ++ path) = some (.unix path)) ∧
    (∀ text a, parse ("tcp://" ++ text) = some (.tcp a) ↔ a.Written text.toList) ∧
    (∀ (a : Net.SocketAddress) text, render (.tcp a) = "tcp://" ++ text ↔ a.Printed text) := by
  refine ⟨fun s e h => ?_, fun s path h => isAbsolute_of_parse h, fun path habsolute hsingle => parse_path habsolute hsingle,
    fun text a => ?_, fun a text => ?_⟩
  · have hback := parse_render h
    exact ⟨hback, congrArg (Option.map render) hback⟩
  · rw [parse, String.toList_append, parseChars_tcp]
    exact ⟨by rintro ⟨_, ⟨⟩, hwritten⟩; exact hwritten, fun hwritten => ⟨a, rfl, hwritten⟩⟩
  · rw [Net.SocketAddress.printed_iff, render, String.append_right_inj]
    exact eq_comm

/-- The usual socket, written with one slash, and an address with a scope, written with zeros that are not printed. -/
theorem parse_inverts_render_csi :
    parse "unix:/csi/csi.sock" = some (.unix "/csi/csi.sock") ∧ parse "unix:///csi/csi.sock" = some (.unix "/csi/csi.sock") ∧
      Path.isAbsolute ⟨"/csi/csi.sock"⟩ = true ∧
      parse "tcp://[0:0::1%07]:080" = some (.tcp (.v6 ⟨[0, 0, 0, 0, 0, 0, 0, 1], rfl⟩ 7 80)) ∧
      parse "tcp://[::1%7]:80" = some (.tcp (.v6 ⟨[0, 0, 0, 0, 0, 0, 0, 1], rfl⟩ 7 80)) := by
  obtain ⟨hback, habsolute, hsingle, -, -⟩ := parse_inverts_render
  have hsocket : parse "unix:/csi/csi.sock" = some (.unix "/csi/csi.sock") := by decide +kernel
  have haddress : parse "tcp://[0:0::1%07]:080" = some (.tcp (.v6 ⟨[0, 0, 0, 0, 0, 0, 0, 1], rfl⟩ 7 80)) := by decide +kernel
  refine ⟨hsocket, (hsingle "/csi/csi.sock" (by decide) (by decide)).2, habsolute _ _ hsocket, haddress, ?_⟩
  exact (hback _ _ haddress).1

end Endpoint

end VolumeDriver
