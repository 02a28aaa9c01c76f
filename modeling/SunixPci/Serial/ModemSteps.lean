import SunixPci.Serial.PortSteps

/-!
# Serial — ModemSteps

What happens to the modem control register and to its record `mctrl`, event by event.

* `ModemStep`: the four things that the driver does to them.
* `step_modem`: an event that leaves the address of the port alone is a sequence of these.
-/

namespace SunixPci.Serial

section
variable [Kernel]

/-- One thing that is done to the modem part of a port. -/
inductive ModemStep : SunixSerPort → SunixSerPort → Prop where
  /-- Nothing. -/
  | other {sp sp' : SunixSerPort} (h : sp'.modem = sp.modem) : ModemStep sp sp'
  | updateMctrl (sp : SunixSerPort) (set clear : U32) :
      ModemStep sp (snxSerUpdateMctrl sp set clear)
  | setTermios {sp sp' : SunixSerPort} {t t' : Termios} {old : Option Termios}
      (h : sunixSerSetTermios sp t old = .ok (sp', t')) : ModemStep sp sp'
  | startup {sp sp' : SunixSerPort} {lsr : UChar} {r : ℤ}
      (h : sunixSerStartup sp lsr = .ok (r, sp')) : ModemStep sp sp'

abbrev ModemSteps : SunixSerPort → SunixSerPort → Prop := Relation.ReflTransGen ModemStep

variable {l l' : Line}

/-- What is done to a port, seen from its modem part. -/
theorem PortStep.modem {sp sp' : SunixSerPort} (h : PortStep sp sp') : ModemStep sp sp' := by
  cases h with
  | quiet hmodem => exact .other hmodem
  | updateMctrl set clear => exact .updateMctrl sp set clear
  | setTermios h => exact .setTermios h
  | startup h => exact .startup h

/-- **What an event does to the modem part**: some of the four things, in a row. -/
theorem step_modem {e : Event} (he : e.staysPut = true) (h : step l e = .ok l') :
    ModemSteps l.sp l'.sp := by
  have hport := step_port he h
  exact Relation.ReflTransGen.mono (fun _ _ => PortStep.modem) _ _ hport

end

end SunixPci.Serial
