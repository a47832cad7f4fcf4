import GnssMonitor.Options

/-! What the command line says about itself. -/

namespace GnssMonitor.Options

def programName : String := "gpsmon"

def programVersion : String := "3.25.1"

def usage : String :=
  "usage: gpsmon [-h] [-a] [-D DEBUGLEVEL] [-L] [-l FILE] [-n] [-t TYPE] [-V]\n" ++
  "              [source]\n"

def help : String :=
  usage ++ "\n" ++
  "Monitor and reconfigure a GPS receiver, directly or through gpsd.\n\n" ++
  "positional arguments:\n" ++
  "  source                server[:port[:device]] for a gpsd relay, or a /dev\n" ++
  "                        path for a direct line\n\n" ++
  "options:\n" ++
  "  -h, --help            show this help message and exit\n" ++
  "  -a, --nocurses        No curses. Data only.\n" ++
  "  -D DEBUGLEVEL, --debug DEBUGLEVEL\n" ++
  "                        Set DEBUGLEVEL\n" ++
  "  -L, --list            List known device types, then exit.\n" ++
  "  -l FILE, --logfile FILE\n" ++
  "                        Log packets to FILE\n" ++
  "  -n, --nmea            Force NMEA mode.\n" ++
  "  -t TYPE, --type TYPE  Set receiver TYPE\n" ++
  "  -V, --version         show program's version number and exit\n"

/-- Exit code, standard output and standard error when the arguments end the program. -/
def Stop.answer : Stop → Nat × String × String
  | help => (0, Options.help, "")
  | version => (0, s!"{programName}: {programVersion}\n", "")
  | fault e => (2, "", usage ++ s!"{programName}: error: {e.message}\n")

end GnssMonitor.Options
