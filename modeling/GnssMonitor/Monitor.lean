import GnssMonitor.Desk.Switching
import GnssMonitor.Session.Intake

/-! A monitoring run: a session and the operator's desk, and actions that concern both. -/

namespace GnssMonitor

abbrev Monitor := Session × Desk

namespace Monitor

abbrev Do := Act Effect Monitor

def session (m : Monitor) : Session := m.1

def desk (m : Monitor) : Desk := m.2

def onSession {α : Type} (x : Session.Do α) : Do α := Session.onSession .line x

def onDesk {α : Type} (x : Desk.Do α) : Do α := Act.within Prod.snd (fun d m => (m.1, d)) id x

def complain (text : String) : Do Unit := onDesk (Desk.complain text)

def modifyDesk (f : Desk → Desk) : Do Unit := modify fun m => (m.1, f m.2)

def prompt (m : Monitor) : String := m.session.describe m.desk.hostname

end Monitor
end GnssMonitor
