/-!
# Services

The names of the services that usually listen on a port.
-/

namespace PacketMeter.Stats

/-- The ports with a usual service, in order. -/
def services : List (UInt16 × String) := [
  (20, "FTP-Data"), (21, "FTP"), (22, "SSH"), (23, "Telnet"), (25, "SMTP"), (53, "DNS"),
  (67, "DHCP"), (68, "DHCP"), (80, "HTTP"), (110, "POP3"), (123, "NTP"), (143, "IMAP"),
  (443, "HTTPS"), (445, "SMB"), (3306, "MySQL"), (3389, "RDP"), (5432, "PostgreSQL"),
  (6379, "Redis"), (8080, "HTTP-Alt")]

/-- The name of the service that usually listens on a port. -/
def serviceName? (port : UInt16) : Option String := services.lookup port

/-- The ports between two bounds, inclusively, that have a usual service, in
order. -/
def servicesBetween (first last : Nat) : List (UInt16 × String) :=
  services.filter fun s => decide (first ≤ s.1.toNat ∧ s.1.toNat ≤ last)

end PacketMeter.Stats
