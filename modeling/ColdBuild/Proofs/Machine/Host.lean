import ColdBuild.Machine
import ColdBuild.Proofs.Machine.Writing
import ColdBuild.Proofs.Session.Ending
import ColdBuild.Proofs.Text.Utf8

/-!
# Sessions on a machine

A machine keeps what a session writes: the document of a report is at the path of the output when
the session has ended, unless a device is there (`Machine.host_keeps`, `Machine.stored_document`).
For that its files have to be a sound file system, which they stay when further ones are put on a
way that leads through directories (`Machine.sound_putFile`).
-/
namespace ColdBuild

namespace Octets

theorem ofNat_toNat_char (octet : UInt8) : UInt8.ofNat (Char.ofNat octet.toNat).toNat = octet := by
  have valid : octet.toNat.isValidChar := .inl (by have := octet.toNat_lt; omega)
  rw [Char.ofNat, dif_pos valid]
  exact UInt8.ofNat_toNat

theorem bytes_ofText (text : String) : bytes (ofText text) = Utf8.encode text := by
  rw [bytes, ofText, String.toList_ofList, List.map_map]
  exact List.map_id'' ofNat_toNat_char _

/-- A text that enters a machine leaves it unchanged. -/
theorem toText_ofText (text : String) : toText (ofText text) = text := by
  rw [toText, bytes_ofText, Utf8.decode_encode]

end Octets

namespace Machine

/-- The text of the file at a path, if there is one. -/
def textAt (path : Path) (machine : Machine) : Option String :=
  match machine.files.find machine.process.current path with
  | .error _ => none
  | .ok number =>
    match machine.files.at? number with
    | some (.file content _) => some (Octets.toText content)
    | _ => none

def LeadsToDevice (path : Path) (machine : Machine) : Prop :=
  ∃ number device, machine.files.find machine.process.current path = .ok number ∧
    machine.files.at? number = some (.device device)

/-- What is written on a machine is there, unless it went to a device. -/
theorem host_keeps {machine : Machine} {path : Path} (sound : machine.files.Sound)
    (noDevice : ¬LeadsToDevice path machine) : host.Keeps textAt path machine := by
  intro text after written
  simp only [host] at written
  split at written
  · next fs h =>
    cases written
    have files : Machine.files { machine with process := machine.process.withFiles fs } = fs := rfl
    have current : (machine.process.withFiles fs).current = machine.process.current := rfl
    obtain ⟨number, found, ⟨mode, there⟩ | ⟨rfl, device, there⟩, -⟩ :=
      FileSystem.find_of_write sound h
    · simp only [textAt, files, current, found, there, Octets.toText_ofText]
    · exact absurd ⟨number, device, found, there⟩ noDevice
  · cases written

/-- When a session has stored its report on a machine, the document is at the output's path. -/
theorem stored_document {environment : Environment} {options : Options} {config : Config}
    {report : Report} {events : List Event} {before middle after : Machine}
    (resolved : options.request.resolve = .ok config)
    (measured : ((Session.tool options).rig host).benchmark config before =
      ⟨.ok report, events, middle⟩)
    (written : host.writeFile config.output report.document middle = (.ok (), after))
    (sound : middle.files.Sound) (noDevice : ¬LeadsToDevice config.output middle) :
    textAt config.output (Session.perform host environment options before).world =
      some report.document := by
  rw [Session.perform_stored resolved measured written]
  exact host_keeps sound noDevice _ _ written

/-- What is put on a way through directories leaves a sound file system, if it is no directory. -/
theorem sound_put {fs : FileSystem} {path : String} {node : Node} (sound : fs.Sound)
    (passable : fs.Passable FileSystem.root (namesOf path).dropLast)
    (leaf : node.isDirectory = false) : (put fs path node).Sound := by
  refine ((sound.makeDirectories passable).add ?_).enter FileSystem.at?_add_self _ _
  rintro parent entries removed rfl
  cases leaf

theorem sound_putFile {machine : Machine} {path text : String} {mode : Nat}
    (sound : machine.files.Sound) (passable : machine.files.Passable FileSystem.root
      (machine.files.placeOf machine.files.nodes.size machine.process.current ++
        namesOf path).dropLast) : (machine.putFile path text mode).files.Sound := by
  refine ((sound.makeDirectories passable).add ?_).enter FileSystem.at?_add_self _ _
  rintro _ _ _ ⟨⟩

theorem sound_putDirectory {machine : Machine} {path : String} (sound : machine.files.Sound)
    (passable : machine.files.Passable FileSystem.root
      (machine.files.placeOf machine.files.nodes.size machine.process.current ++ namesOf path)) :
    (machine.putDirectory path).files.Sound :=
  sound.makeDirectories passable

end Machine

end ColdBuild
