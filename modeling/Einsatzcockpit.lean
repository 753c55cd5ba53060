import Einsatzcockpit.Sms.AtMostOnce
import Einsatzcockpit.Breathing.Converge
import Einsatzcockpit.Alarm.Codes
import Einsatzcockpit.Gsl.Geschlossen
import Einsatzcockpit.Gsl.Fixpunkt
import Einsatzcockpit.Apply.Manuell
import Einsatzcockpit.Transport.Delivered
import Einsatzcockpit.Notify.Offen
import Einsatzcockpit.Notify.Einmal
import Einsatzcockpit.Outbox.Zugang
import Einsatzcockpit.Breathing.Archive
import Einsatzcockpit.Breathing.Einmalig
import Einsatzcockpit.Alarm.Abschluss
import Einsatzcockpit.Wetter.Hysterese
import Einsatzcockpit.Verleih.Leihstand
import Einsatzcockpit.Fahrtenbuch.Zaehlerstand
import Einsatzcockpit.KontaktSync.Vollstaendig
import Einsatzcockpit.Serial.Einmal
import Einsatzcockpit.Planspiel.Einmal
import Einsatzcockpit.Kanban.Karten
import Einsatzcockpit.Sperre.Ablauf
import Einsatzcockpit.Lis.Eineindeutig
import Einsatzcockpit.Lis.Idempotent
import Einsatzcockpit.Sms.Capacity
import Einsatzcockpit.Alarm.Budget
import Einsatzcockpit.Sms.Projiziert
import Einsatzcockpit.Weiterleitung.Einmal
import Einsatzcockpit.Mailing.Account
import Einsatzcockpit.Dienst.Meldungen
import Einsatzcockpit.Asuew.Beschneidung
import Einsatzcockpit.Gsl.Zaehler
import Einsatzcockpit.Gsl.Konflikt
import Einsatzcockpit.Einheit.Material
import Einsatzcockpit.Pflege.Kraefte
import Einsatzcockpit.Fuehrung.Verlauf
import Einsatzcockpit.Protokoll.Vollstaendig
import Einsatzcockpit.Apply.Idempotent
import Einsatzcockpit.Alarmtext.Ordnung
import Einsatzcockpit.Alarmtext.Schritte
import Einsatzcockpit.Zugang.Sicherheit
import Einsatzcockpit.Planspiel.Uhr
import Einsatzcockpit.Lis.Entlassung
import Einsatzcockpit.Breathing.Formular
import Einsatzcockpit.Kontakt.Verlustfrei
import Einsatzcockpit.Planspiel.Generator
import Einsatzcockpit.Sperre.Routen
import Einsatzcockpit.Sperre.Abschnitt
import Einsatzcockpit.Lis.Schutzfenster
import Einsatzcockpit.Fahrzeugstamm.Spurlos
import Einsatzcockpit.Katplan.Baum
import Einsatzcockpit.Katplan.Vergleich
import Einsatzcockpit.Zugang.SmsLaenge
import Einsatzcockpit.Foerderstrecke.ModusA
import Einsatzcockpit.Foerderstrecke.Vereinbar
import Einsatzcockpit.Sperre.Kuerzeste
import Einsatzcockpit.Agent.Releases
import Einsatzcockpit.Objekt.Verwerfen
import Einsatzcockpit.Sicherung.Reihenfolge
